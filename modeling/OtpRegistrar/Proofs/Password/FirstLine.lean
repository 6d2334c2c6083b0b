/-
The password in the first line of a file.

A password file is read as the first line of it, and what stands in front of the first
line end is the password.  Anything else fails in one way: the password cannot be read.

What stands behind the line matters as far as it is looked at.  A byte that is not
UTF-8 in the block in which the line ends spoils the password, and the same byte a
block later does not.
-/
import OtpRegistrar.Proofs.Password.Reading
import OtpRegistrar.Proofs.Text.FirstLine

namespace OtpRegistrar

open Text (FirstLineShows firstLineBytes isUtf8 toBytes)

theorem Text.toBytes_eq_nil_iff {t : Text} (ht : isUtf8 t = true) : toBytes t = [] ↔ t = [] := by
  constructor
  · exact fun hbytes => toBytes_injective ht rfl hbytes
  · rintro rfl
    rfl

namespace PasswordSource

/-- A first line that shows is the password, unless it is empty. -/
theorem ofFile_of_shows {content : List UInt8} (hshows : FirstLineShows content) (path : Text) :
    ofFile path content =
      if firstLineBytes content = [] then .error (.emptyFile path)
      else .ok (firstLineBytes content) := by
  obtain ⟨l, hread⟩ := Text.firstLine_complete hshows
  obtain ⟨-, hutf8, hbytes⟩ := Text.firstLine_sound hread
  unfold ofFile
  rw [hread, ← hbytes]
  cases l with
  | nil => rfl
  | cons s l =>
      have hsome : toBytes (s :: l) ≠ [] := by
        rw [Ne, Text.toBytes_eq_nil_iff hutf8]
        exact List.cons_ne_nil s l
      rw [if_neg hsome]

theorem ofFile_of_not_shows {content : List UInt8} (hshows : ¬FirstLineShows content)
    (path : Text) : ∃ reason, ofFile path content = .error (.unreadableFile path reason) := by
  unfold ofFile
  cases hread : Text.firstLine content with
  | error flaw => exact ⟨_, rfl⟩
  | ok l => exact absurd (Text.firstLine_sound hread).1 hshows

theorem ofFile_eq_ok_iff {path : Text} {content bytes : List UInt8} :
    ofFile path content = .ok bytes ↔
      FirstLineShows content ∧ firstLineBytes content ≠ [] ∧ bytes = firstLineBytes content := by
  by_cases hshows : FirstLineShows content
  · rw [ofFile_of_shows hshows]
    by_cases hempty : firstLineBytes content = []
    · simp [hempty]
    · simp [hempty, hshows, eq_comm]
  · obtain ⟨reason, hreason⟩ := ofFile_of_not_shows hshows path
    simp [hreason, hshows]

/-- A file that is UTF-8 as a whole holds its first line as the password. -/
theorem ofFile_toBytes {t : Text} (ht : isUtf8 t = true)
    (hsome : t.takeWhile (!Text.isLineEnd ·) ≠ []) (path : Text) :
    ofFile path (toBytes t) = .ok (toBytes (t.takeWhile (!Text.isLineEnd ·))) := by
  have hshows : FirstLineShows (toBytes t) := .inl ⟨t, ht, rfl⟩
  have hline : firstLineBytes (toBytes t) = toBytes (t.takeWhile (!Text.isLineEnd ·)) :=
    Text.firstLineBytes_toBytes ht
  have hutf8 : isUtf8 (t.takeWhile (!Text.isLineEnd ·)) = true :=
    Text.isUtf8_of_subset ht (List.takeWhile_subset _)
  rw [ofFile_of_shows hshows, hline, if_neg (mt (Text.toBytes_eq_nil_iff hutf8).mp hsome)]

end PasswordSource

namespace Action

theorem runOn_readPasswordFile {h : Host} {path : Text} {content : List UInt8}
    (hnul : FileTree.hasNul path = false) (hfile : h.files.read path = .ok content) :
    (readPasswordFile path).runOn h =
      ((PasswordSource.ofFile path content).mapError .password,
        h.note (.passwordFileRead path)) := by
  unfold readPasswordFile
  rw [runOn_ofFunction]
  dsimp only
  rw [if_neg (by simp [hnul]), show (h.note (.passwordFileRead path)).files = h.files from rfl,
    hfile]

/-- **The password of a file is its first line, as far as the reader can see it.**  It is read if
and only if the first line shows and is not empty, and then it is the bytes of the line, whatever
follows.  An empty line is a password that cannot be read, and so is one that does not show. -/
theorem readPasswordFile_first_line {h : Host} {path : Text} {content : List UInt8}
    (hnul : FileTree.hasNul path = false) (hfile : h.files.read path = .ok content) :
    (∀ bytes, ((readPasswordFile path).runOn h).1 = .ok bytes ↔
      FirstLineShows content ∧ firstLineBytes content ≠ [] ∧ bytes = firstLineBytes content) ∧
    (firstLineBytes content = [] →
      ∃ flaw, ((readPasswordFile path).runOn h).1 = .error (.password flaw)) ∧
    (¬FirstLineShows content →
      ∃ reason, ((readPasswordFile path).runOn h).1 =
        .error (.password (.unreadableFile path reason))) := by
  rw [runOn_readPasswordFile hnul hfile]
  refine ⟨fun bytes => ?_, fun hempty => ?_, fun hhidden => ?_⟩
  · have hfound : PasswordSource.ofFile path content = .ok bytes ↔ _ :=
      PasswordSource.ofFile_eq_ok_iff
    rw [← hfound]
    cases PasswordSource.ofFile path content with
    | error flaw => simp [Except.mapError]
    | ok read => simp [Except.mapError]
  · cases hfound : PasswordSource.ofFile path content with
    | error flaw => exact ⟨flaw, rfl⟩
    | ok read =>
        obtain ⟨-, hsome, -⟩ := PasswordSource.ofFile_eq_ok_iff.mp hfound
        exact absurd hempty hsome
  · obtain ⟨reason, hreason⟩ := PasswordSource.ofFile_of_not_shows hhidden path
    rw [hreason]
    exact ⟨reason, rfl⟩

/-- A machine with a password file. -/
def passwordFileHost (content : List UInt8) : Host :=
  { Host.plain with
    files := (FileTree.empty "/home/tester").plant (Place.ofPath "pw.txt") (.file content) }

/-- A password, and more text up to the end of the first block. -/
def firstBlock : Text := Text.ofString "pw\n" ++ List.replicate 8189 (.char 'a')

/-- A file in which a byte behind the first block is not UTF-8. -/
def longFile : List UInt8 := toBytes firstBlock ++ [0xFF]

/-- Such a byte is never looked at. -/
theorem readPasswordFile_first_line_long :
    ((readPasswordFile "pw.txt").runOn (passwordFileHost longFile)).1 = .ok [0x70, 0x77] := by
  have hplain : ∀ n, toBytes (List.replicate n (.char 'a')) = List.replicate n 0x61 := by
    intro n
    induction n with
    | zero => rfl
    | succ n ih => rw [List.replicate_succ, Text.toBytes_cons, ih]; rfl
  have hutf8 : isUtf8 firstBlock = true := by
    refine Text.isUtf8_append rfl (List.all_eq_true.mpr fun s hs => ?_)
    rw [List.eq_of_mem_replicate hs]
    rfl
  have hlength : (toBytes firstBlock).length = 1 * Text.blockSize := by
    rw [firstBlock, Text.toBytes_append, hplain, List.length_append, List.length_replicate]
    rfl
  have hend : Text.EndShows firstBlock := by
    have hlast : firstBlock.getLast? ≠ some (.char '\r') := by
      rw [firstBlock, List.getLast?_append, List.getLast?_replicate, if_neg (by decide)]
      decide
    rw [Text.EndShows, Text.settled, if_neg hlast]
    exact ⟨.char '\n', List.mem_append_left _ (by decide), rfl⟩
  have hshows : FirstLineShows longFile := by
    refine .inr ⟨1, firstBlock, [], ?_, hend⟩
    rw [List.nil_append, longFile, List.take_left' hlength]
    exact Text.spells_toBytes hutf8
  have hline : firstLineBytes longFile = [0x70, 0x77] := by
    refine (Text.firstLineBytes_of_mem hutf8 ?_ [0xFF]).trans rfl
    exact ⟨.char '\n', List.mem_append_left _ (by decide), rfl⟩
  exact ((readPasswordFile_first_line (by decide) rfl).1 _).mpr
    ⟨hshows, by rw [hline]; decide, hline.symm⟩

/-- A file in which a byte behind the first line is not UTF-8. -/
def strayFile : List UInt8 := [0x70, 0x77, 0x0A, 0xFF]

/-- A first line that is not empty, and UTF-8, is not read if the byte behind it is not. -/
theorem readPasswordFile_looks_behind :
    firstLineBytes strayFile = toBytes "pw" ∧
    (passwordFileHost strayFile).files.read "pw.txt" = .ok strayFile ∧
    ((readPasswordFile "pw.txt").runOn (passwordFileHost strayFile)).1 ≠ .ok (toBytes "pw") := by
  have hhidden : ¬FirstLineShows strayFile := by
    intro hshows
    obtain ⟨l, hread⟩ := Text.firstLine_complete hshows
    have hblock : Text.blocks strayFile = [strayFile] := by
      rw [Text.blocks, dif_neg (by decide), Text.blocks, dif_pos (by decide)]
      rfl
    rw [Text.firstLine, hblock] at hread
    cases hread
  obtain ⟨reason, hreason⟩ := PasswordSource.ofFile_of_not_shows hhidden "pw.txt"
  refine ⟨by decide, rfl, ?_⟩
  rw [runOn_readPasswordFile (by decide) rfl, hreason]
  simp [Except.mapError]

end Action

end OtpRegistrar
