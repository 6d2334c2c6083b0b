/-
Configuration files of which only some parameters are wanted.

A reader that keeps the listed parameters alone still has to go through the others: a
quoted value that nobody wants may stand on many lines, and what is written on them is no
assignment.  So the reader that keeps some and the reader that keeps all are followed side
by side.  They stand at the same line and inside of the same quotes all the time, and the
entries of the one are those of the other without the names that are not wanted.

This holds from any point on, with a value open or not.  What the reader has passed over
therefore never changes how the lines behind it are read.
-/
import OtpRegistrar.Proofs.ConfigFile.Appending

namespace OtpRegistrar.ConfigFile

/-- The entries whose names the reader keeps. -/
def Entries.kept (keep : Text → Bool) (entries : Entries) : Entries :=
  entries.filter fun e => keep e.1

/-- A value that is stored where all are kept is stored among the kept ones, or nowhere. -/
theorem Entries.kept_set (keep : Text → Bool) (entries : Entries) (name : Text) (value : Value) :
    (entries.set name value).kept keep =
      if keep name then (entries.kept keep).set name value else entries.kept keep :=
  set_filter entries keep name value

/-- **A reader that keeps some names goes along with one that keeps all**, from any line on and
whatever is open there. -/
theorem readLines_kept (keep : Text → Bool) (o : Option Open) (entries : Entries)
    (lines : List Text) :
    readLines keep o (entries.kept keep) lines =
      (readLines (fun _ => true) o entries lines).map (Entries.kept keep) := by
  induction lines generalizing o entries with
  | nil =>
      cases o with
      | none => rfl
      | some o => rfl
  | cons line rest ih =>
      cases o with
      | some o =>
          by_cases hclose : (Text.stripRightOf (.char '\r') line).getLast? = some o.quote
          · simp only [readLines, hclose, if_true, ← Entries.kept_set, ih]
          · simp only [readLines, hclose, if_false, ih]
      | none =>
          cases hsays : Line.ofText (Text.stripRightOf (.char '\r') line) with
          | nothing => simp only [readLines, hsays, ih]
          | noAssignment =>
              simp only [readLines, hsays]
              rfl
          | opening name quote start => simp only [readLines, hsays, ih]
          | assignment name value =>
              simp only [readLines, hsays, if_true, ← Entries.kept_set, ih]

/-- **What is read for listed parameters is what the whole file gives of them**: the same values in
the same order.  The file is wrong for them if and only if it is wrong, and in the same way. -/
theorem readOnly_eq_kept {names : List Text} (hnames : names ≠ []) (t : Text) :
    readOnly names t = (read t).map (Entries.kept names.contains) ∧
    (∀ flaw, readOnly names t = .error flaw ↔ read t = .error flaw) ∧
    ∀ entries, read t = .ok entries →
      ∃ wanted, readOnly names t = .ok wanted ∧ wanted.Sublist entries ∧
        ∀ name, wanted.get? name = if name ∈ names then entries.get? name else none := by
  have hread : readOnly names t = (read t).map (Entries.kept names.contains) := by
    unfold readOnly read
    rw [if_neg (by simpa using hnames)]
    exact readLines_kept names.contains none [] (linesOf t)
  refine ⟨hread, fun flaw => ?_, fun entries hentries => ?_⟩
  · rw [hread]
    cases read t with
    | error e => exact Iff.rfl
    | ok entries =>
        constructor
        · intro heq
          cases heq
        · intro heq
          cases heq
  · refine ⟨entries.kept names.contains, ?_, List.filter_sublist, fun name => ?_⟩
    · rw [hread, hentries]
      rfl
    · rw [Entries.kept, Entries.get?_filter]
      simp only [List.contains_iff_mem]

/-- A file in which one value looks like an assignment and another like a comment. -/
def guardedFile : Text := "A='x\nB=1'\n B = \"#\" \nC=\"y\r\nB=3\r\n\"\r\nA=4"

theorem readOnly_eq_kept_guarded :
    [Text.ofString "B"] ≠ [] ∧
      readOnly [Text.ofString "B"] guardedFile = .ok [("B", .text "#")] := by
  have hsome : [Text.ofString "B"] ≠ [] := List.cons_ne_nil _ _
  refine ⟨hsome, ?_⟩
  rw [(readOnly_eq_kept hsome guardedFile).1]
  rfl

end OtpRegistrar.ConfigFile
