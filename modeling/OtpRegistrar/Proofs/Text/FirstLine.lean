/-
The first line of a file, read block by block.

What the reader knows behind some blocks can be told from the bytes in them, however
they were cut: they spell a text, the line so far is this text without a carriage
return that still waits for what follows it, and what the bytes leave over is carried
on (`Reading`).  A block takes this from the bytes in front of it to those with it, or
the line ends in it.

So the reader finds the bytes in front of the first line end, or nothing.  Which of both
is decided by what it has to look at: the whole block in which the line end shows has to
be the beginning of UTF-8, and not only the line.
-/
import OtpRegistrar.Proofs.Text.Spelling
import Mathlib.Data.List.TakeWhile

namespace OtpRegistrar.Text

/-! ### Line ends -/

/-- Does the symbol end a line? -/
def isLineEnd (s : Symbol) : Bool := s == .char '\n' || s == .char '\r'

/-- Does the byte end a line? -/
def isEndByte (b : UInt8) : Bool := b == 10 || b == 13

/-- The bytes in front of the first line end. -/
def firstLineBytes (bs : List UInt8) : List UInt8 := bs.takeWhile (!isEndByte ·)

/-- What cannot change if more follows: a carriage return at the end may belong to a pair. -/
def settled (t : Text) : Text := if t.getLast? = some (.char '\r') then t.dropLast else t

/-- A line end can be seen in the text, whatever follows. -/
def EndShows (t : Text) : Prop := ∃ s ∈ settled t, isLineEnd s = true

theorem utf8EncodeChar_of_isLineEnd {c : Char} (hc : isLineEnd (.char c) = true) :
    ∃ b, String.utf8EncodeChar c = [b] ∧ isEndByte b = true := by
  unfold isLineEnd at hc
  rcases Bool.or_eq_true_iff.mp hc with hc | hc
  · obtain rfl : c = '\n' := by simpa using hc
    exact ⟨10, by decide, rfl⟩
  · obtain rfl : c = '\r' := by simpa using hc
    exact ⟨13, by decide, rfl⟩

/-- No byte of another character is that of a line end. -/
theorem isEndByte_of_mem {c : Char} (hc : isLineEnd (.char c) = false) :
    ∀ b ∈ String.utf8EncodeChar c, isEndByte b = false := by
  have hascii : c.val.toNat ≠ 10 ∧ c.val.toNat ≠ 13 := by
    have hne : c ≠ '\n' ∧ c ≠ '\r' := by simpa [isLineEnd] using hc
    exact ⟨fun h => hne.1 (Char.ext (UInt32.toNat_inj.mp h)),
      fun h => hne.2 (Char.ext (UInt32.toNat_inj.mp h))⟩
  intro b hb
  have hbyte : b.toNat ≠ 10 ∧ b.toNat ≠ 13 := by
    unfold String.utf8EncodeChar at hb
    generalize c.val.toNat = v at hascii hb
    dsimp only at hb
    split_ifs at hb <;> simp only [List.mem_cons, List.not_mem_nil, or_false] at hb
    · rw [hb, toNat_ofNat (by omega)]
      exact hascii
    · rcases hb with rfl | rfl <;> rw [toNat_ofNat (by omega)] <;> omega
    · rcases hb with rfl | rfl | rfl <;> rw [toNat_ofNat (by omega)] <;> omega
    · rcases hb with rfl | rfl | rfl | rfl <;> rw [toNat_ofNat (by omega)] <;> omega
  have hten : b ≠ 10 := fun h => hbyte.1 (by rw [h]; rfl)
  have hthirteen : b ≠ 13 := fun h => hbyte.2 (by rw [h]; rfl)
  simp [isEndByte, hten, hthirteen]

/-- Without a line end in it, a text belongs to the first line as a whole. -/
theorem firstLineBytes_append {t : Text} (ht : isUtf8 t = true)
    (hplain : ∀ s ∈ t, isLineEnd s = false) (bs : List UInt8) :
    firstLineBytes (toBytes t ++ bs) = toBytes t ++ firstLineBytes bs := by
  refine List.takeWhile_append_of_pos fun b hb => ?_
  obtain ⟨s, hs, hb⟩ := List.mem_flatMap.mp hb
  have hstray := List.all_eq_true.mp ht s hs
  cases s with
  | stray low => cases hstray
  | char c => rw [isEndByte_of_mem (hplain _ hs) b hb, Bool.not_false]

/-- With one, the line ends there. -/
theorem firstLineBytes_of_mem {t : Text} (ht : isUtf8 t = true)
    (hend : ∃ s ∈ t, isLineEnd s = true) (bs : List UInt8) :
    firstLineBytes (toBytes t ++ bs) = toBytes (t.takeWhile (!isLineEnd ·)) := by
  induction t with
  | nil => simp at hend
  | cons s t ih =>
      obtain ⟨c, rfl, htail⟩ := exists_char_of_isUtf8 ht
      rw [toBytes_cons, List.append_assoc]
      by_cases hc : isLineEnd (.char c) = true
      · obtain ⟨b, hbytes, hb⟩ := utf8EncodeChar_of_isLineEnd hc
        rw [hbytes, List.takeWhile_cons_of_neg (by simp [hc])]
        exact List.takeWhile_cons_of_neg (by simp [hb])
      · rw [Bool.not_eq_true] at hc
        have hmore : ∃ s ∈ t, isLineEnd s = true := by simpa [hc] using hend
        have hfirst := firstLineBytes_append (t := [.char c]) rfl (by simpa using hc)
          (toBytes t ++ bs)
        rw [show toBytes [.char c] = String.utf8EncodeChar c from List.append_nil _] at hfirst
        rw [hfirst, ih htail hmore, List.takeWhile_cons_of_pos (by simp [hc]), toBytes_cons]

/-- The first line of the bytes of a text is that of the text. -/
theorem firstLineBytes_toBytes {t : Text} (ht : isUtf8 t = true) :
    firstLineBytes (toBytes t) = toBytes (t.takeWhile (!isLineEnd ·)) := by
  rw [← List.append_nil (toBytes t)]
  by_cases hend : ∃ s ∈ t, isLineEnd s = true
  · exact firstLineBytes_of_mem ht hend []
  · have hplain : ∀ s ∈ t, isLineEnd s = false := by simpa using hend
    rw [firstLineBytes_append ht hplain, List.takeWhile_eq_self_iff.mpr (by simpa using hplain)]
    exact List.append_nil _

/-- The line in a text with unified line ends is the line in the text. -/
theorem takeWhile_unifyLineEnds (t : Text) :
    (unifyLineEnds t).takeWhile (· != .char '\n') = t.takeWhile (!isLineEnd ·) := by
  fun_induction unifyLineEnds t with
  | case1 => rfl
  | case2 t ih => rfl
  | case3 t hnext ih => rfl
  | case4 s t hpair hreturn ih =>
      have hs : s ≠ .char '\r' := fun h => hreturn h
      by_cases hnewline : s = .char '\n'
      · rw [hnewline]
        rfl
      · rw [List.takeWhile_cons_of_pos (by simpa using hnewline),
          List.takeWhile_cons_of_pos (by simp [isLineEnd, hs, hnewline]), ih]

theorem mem_unifyLineEnds (t : Text) :
    Symbol.char '\n' ∈ unifyLineEnds t ↔ ∃ s ∈ t, isLineEnd s = true := by
  fun_induction unifyLineEnds t with
  | case1 => simp
  | case2 t ih => simp [isLineEnd]
  | case3 t hnext ih => simp [isLineEnd]
  | case4 s t hpair hreturn ih =>
      have hs : s ≠ .char '\r' := fun h => hreturn h
      by_cases hnewline : s = .char '\n'
      · simp [hnewline, isLineEnd]
      · rw [List.mem_cons, ih]
        simp [isLineEnd, hs, hnewline, Ne.symm hnewline]

/-! ### What is carried from one block to the next -/

/-- The symbol that waits for what follows it. -/
def Carry.text (carry : Carry) : Text := if carry.held then [.char '\r'] else []

/-- What is carried on behind a text that has been read, with these bytes left over. -/
def carryOf (t : Text) (bytes : List UInt8) : Carry :=
  ⟨bytes, decide (t.getLast? = some (.char '\r'))⟩

theorem settled_concat (t : Text) (s : Symbol) :
    settled (t ++ [s]) = if s = .char '\r' then t else t ++ [s] := by
  unfold settled
  rw [List.getLast?_concat, List.dropLast_concat]
  simp only [Option.some.injEq]

theorem settled_append_text (t : Text) (bytes : List UInt8) :
    settled t ++ (carryOf t bytes).text = t := by
  rcases List.eq_nil_or_concat t with rfl | ⟨t, s, rfl⟩
  · rfl
  · unfold carryOf Carry.text
    rw [List.concat_eq_append, settled_concat, List.getLast?_concat]
    by_cases hs : s = .char '\r'
    · simp [hs]
    · simp [hs]

/-- In front of what is settled there may stand anything that is no line end. -/
theorem settled_append {line : Text} (hplain : ∀ s ∈ line, isLineEnd s = false) (t : Text) :
    settled (line ++ t) = line ++ settled t := by
  rcases List.eq_nil_or_concat t with rfl | ⟨t, s, rfl⟩
  · have hlast : line.getLast? ≠ some (.char '\r') := by
      intro hlast
      have hreturn := hplain _ (List.mem_of_getLast? hlast)
      cases hreturn
    rw [List.append_nil, settled, if_neg hlast]
    exact (List.append_nil line).symm
  · rw [List.concat_eq_append, ← List.append_assoc, settled_concat, settled_concat]
    by_cases hs : s = .char '\r'
    · rw [if_pos hs, if_pos hs]
    · rw [if_neg hs, if_neg hs, List.append_assoc]

/-- A block is read behind the symbol that waits. -/
theorem decodeBlock_eq (carry : Carry) (block : List UInt8) :
    decodeBlock carry block = (decodeSoFar (carry.bytes ++ block)).map fun (t, bytes) =>
      (unifyLineEnds (settled (carry.text ++ t)), carryOf (carry.text ++ t) bytes) := by
  obtain ⟨left, held⟩ := carry
  unfold decodeBlock
  refine congrArg (fun f => (decodeSoFar (left ++ block)).map f) (funext fun (t, bytes) => ?_)
  have hwhole : (if held then .char '\r' :: t else t) = (Carry.mk left held).text ++ t := by
    cases held <;> rfl
  dsimp only
  by_cases hempty : t = []
  · rw [hempty]
    cases held <;> rfl
  · rw [if_neg (by simpa using hempty), hwhole]
    unfold settled carryOf
    split <;> simp_all

/-! ### One block -/

theorem length_takeWhile_lt_iff {p : Symbol → Bool} {t : Text} :
    (t.takeWhile p).length < t.length ↔ ∃ s ∈ t, p s = false := by
  induction t with
  | nil => simp
  | cons s t ih =>
      by_cases hs : p s = true
      · rw [List.takeWhile_cons_of_pos hs, List.length_cons, List.length_cons,
          Nat.succ_lt_succ_iff, ih]
        simp [hs]
      · rw [List.takeWhile_cons_of_neg hs]
        rw [Bool.not_eq_true] at hs
        simp [hs]

/-- A line end that shows is the first one, whatever is not settled. -/
theorem EndShows.takeWhile {t : Text} (hshows : EndShows t) :
    t.takeWhile (!isLineEnd ·) = (settled t).takeWhile (!isLineEnd ·) := by
  obtain ⟨s, hs, hend⟩ := hshows
  have hlength : ¬((settled t).takeWhile (!isLineEnd ·)).length = (settled t).length :=
    Nat.ne_of_lt (length_takeWhile_lt_iff.mpr ⟨s, hs, by simp [hend]⟩)
  have hwhole := settled_append_text t []
  calc t.takeWhile (!isLineEnd ·)
      = (settled t ++ (carryOf t []).text).takeWhile (!isLineEnd ·) := by rw [hwhole]
    _ = (settled t).takeWhile (!isLineEnd ·) := by rw [List.takeWhile_append, if_neg hlength]

section Block

variable {carry : Carry} {block bytes : List UInt8} {t : Text} {more : List (List UInt8)}
  (hread : decodeSoFar (carry.bytes ++ block) = .ok (t, bytes))

include hread

/-- The line ends in the block where its end shows. -/
theorem lineOfBlocks_of_endShows (hshows : EndShows (carry.text ++ t)) :
    lineOfBlocks carry (block :: more) = .ok ((carry.text ++ t).takeWhile (!isLineEnd ·)) := by
  rw [lineOfBlocks, decodeBlock_eq, hread]
  dsimp only [Except.map]
  rw [if_pos, takeWhile_unifyLineEnds, hshows.takeWhile]
  rw [length_takeWhile_lt_iff]
  exact ⟨_, (mem_unifyLineEnds _).mpr hshows, rfl⟩

/-- Without one it goes on behind what is settled. -/
theorem lineOfBlocks_of_not_endShows (hshows : ¬EndShows (carry.text ++ t)) :
    lineOfBlocks carry (block :: more) =
      (lineOfBlocks (carryOf (carry.text ++ t) bytes) more).map
        (settled (carry.text ++ t) ++ ·) := by
  have hplain : ∀ s ∈ settled (carry.text ++ t), isLineEnd s = false := by
    simpa [EndShows] using hshows
  have hnone : ¬∃ s ∈ unifyLineEnds (settled (carry.text ++ t)), (s != .char '\n') = false := by
    rintro ⟨s, hs, hnewline⟩
    obtain rfl : s = .char '\n' := by simpa using hnewline
    exact hshows ((mem_unifyLineEnds _).mp hs)
  rw [lineOfBlocks, decodeBlock_eq, hread]
  dsimp only [Except.map]
  rw [if_neg (mt length_takeWhile_lt_iff.mp hnone), takeWhile_unifyLineEnds,
    List.takeWhile_eq_self_iff.mpr (by simpa using hplain)]

end Block

/-! ### All blocks -/

/-- What the reader knows behind some bytes: the line so far, and what is carried on. -/
structure Reading (bs : List UInt8) (line : Text) (carry : Carry) : Prop where
  spells : Spells bs (line ++ carry.text) carry.bytes
  plain : ∀ s ∈ line, isLineEnd s = false

/-- The line end shows behind the bytes that have been read, as soon as enough blocks are; or they
are UTF-8 as a whole. -/
def ShowsBehind (bs content : List UInt8) : Prop :=
  (∃ t, isUtf8 t = true ∧ toBytes t = bs ++ content) ∨
    ∃ k t rest, Spells (bs ++ content.take (k * blockSize)) t rest ∧ EndShows t

/-- A line end shows behind a plain text as it does without it. -/
theorem endShows_append_iff {line : Text} (hplain : ∀ s ∈ line, isLineEnd s = false) (t : Text) :
    EndShows (line ++ t) ↔ EndShows t := by
  unfold EndShows
  rw [settled_append hplain]
  constructor
  · rintro ⟨s, hs, hend⟩
    rcases List.mem_append.mp hs with hs | hs
    · rw [hplain s hs] at hend
      cases hend
    · exact ⟨s, hs, hend⟩
  · rintro ⟨s, hs, hend⟩
    exact ⟨s, List.mem_append_right _ hs, hend⟩

section Reading

variable {bs content block bytes : List UInt8} {line t : Text} {carry : Carry}
  (h : Reading bs line carry)

include h

theorem Reading.not_endShows : ¬EndShows (line ++ carry.text) := by
  have hsettled : settled carry.text = [] := by
    unfold Carry.text
    cases carry.held <;> rfl
  rw [endShows_append_iff h.plain, EndShows, hsettled]
  simp

/-- **A block takes what the reader knows from the bytes in front of it to those with it.** -/
theorem Reading.next (hread : decodeSoFar (carry.bytes ++ block) = .ok (t, bytes))
    (hshows : ¬EndShows (carry.text ++ t)) :
    Reading (bs ++ block) (line ++ settled (carry.text ++ t))
      (carryOf (carry.text ++ t) bytes) := by
  constructor
  · rw [List.append_assoc, settled_append_text, ← List.append_assoc]
    exact h.spells.append (decodeSoFar_eq_ok_iff.mp hread)
  · have hplain : ∀ s ∈ settled (carry.text ++ t), isLineEnd s = false := by
      simpa [EndShows] using hshows
    exact List.forall_mem_append.mpr ⟨h.plain, hplain⟩

/-- It makes no difference whether the next block is still to come. -/
theorem Reading.showsBehind_iff :
    ShowsBehind (bs ++ content.take blockSize) (content.drop blockSize) ↔
      ShowsBehind bs content := by
  have hblocks : ∀ k,
      bs ++ content.take blockSize ++ (content.drop blockSize).take (k * blockSize) =
        bs ++ content.take ((k + 1) * blockSize) := by
    intro k
    rw [List.append_assoc, ← List.take_add, Nat.succ_mul, Nat.add_comm]
  unfold ShowsBehind
  rw [List.append_assoc, List.take_append_drop]
  simp only [hblocks]
  refine or_congr_right ⟨fun ⟨k, hk⟩ => ⟨k + 1, hk⟩, ?_⟩
  rintro ⟨k, u, rest, hspells, hshows⟩
  cases k with
  | zero =>
      rw [Nat.zero_mul, List.take_zero, List.append_nil] at hspells
      obtain ⟨rfl, -⟩ := hspells.unique h.spells
      exact absurd hshows h.not_endShows
  | succ k => exact ⟨k, u, rest, hspells, hshows⟩

/-- If the line end shows later, the next block can be read. -/
theorem Reading.decodes (hshows : ShowsBehind bs content) :
    ∃ t bytes, decodeSoFar (carry.bytes ++ content.take blockSize) = .ok (t, bytes) := by
  have hblock : ∃ t rest, Spells (bs ++ content.take blockSize) t rest := by
    rcases h.showsBehind_iff.mpr hshows with ⟨t, hutf8, hbytes⟩ | ⟨k, t, rest, hspells, -⟩
    · exact (hbytes ▸ spells_toBytes hutf8).of_front
    · exact hspells.of_front
  obtain ⟨t, rest, hspells⟩ := hblock
  obtain ⟨t', -, hrest⟩ := h.spells.of_append hspells
  exact ⟨t', rest, decodeSoFar_eq_ok_iff.mpr hrest⟩

/-- The line has ended in the block where its end shows. -/
theorem Reading.firstLineBytes_of_endShows
    (hread : decodeSoFar (carry.bytes ++ block) = .ok (t, bytes))
    (hshows : EndShows (carry.text ++ t)) (more : List UInt8) :
    toBytes (line ++ (carry.text ++ t).takeWhile (!isLineEnd ·)) =
      firstLineBytes (bs ++ block ++ more) := by
  have hspells := h.spells.append (decodeSoFar_eq_ok_iff.mp hread)
  have hend : ∃ s ∈ line ++ carry.text ++ t, isLineEnd s = true := by
    obtain ⟨s, hs, hend⟩ := hshows
    have hmem : s ∈ carry.text ++ t := by
      rw [← settled_append_text (carry.text ++ t) []]
      exact List.mem_append_left _ hs
    rw [List.append_assoc]
    exact ⟨s, List.mem_append_right _ hmem, hend⟩
  have hline : (line ++ carry.text ++ t).takeWhile (!isLineEnd ·) =
      line ++ (carry.text ++ t).takeWhile (!isLineEnd ·) := by
    rw [List.append_assoc]
    exact List.takeWhile_append_of_pos (by simpa using h.plain)
  rw [hspells.bytes, List.append_assoc, firstLineBytes_of_mem hspells.utf8 hend, hline]

/-- Behind the last block nothing may be left over, and a carriage return has ended the line. -/
theorem Reading.decodeEnd_spec :
    (∀ l, decodeEnd carry = .ok l → ShowsBehind bs [] ∧ toBytes (line ++ l) = firstLineBytes bs) ∧
    (ShowsBehind bs [] → ∃ l, decodeEnd carry = .ok l) := by
  obtain ⟨hutf8, hbytes, hunfinished⟩ := h.spells
  constructor
  · intro l hread
    obtain ⟨hl, hleft⟩ := decode_eq_ok_iff.mp hread
    rw [← hleft, ← List.append_nil (toBytes l)] at hunfinished
    obtain rfl : l = [] := hunfinished.eq_nil hl
    have hwhole : toBytes (line ++ carry.text) = bs := by
      rw [hbytes, ← hleft]
      exact (List.append_nil _).symm
    have hline : isUtf8 line = true := isUtf8_of_subset hutf8 (List.subset_append_left _ _)
    have hwaits : firstLineBytes (toBytes carry.text) = [] := by
      unfold Carry.text
      cases carry.held <;> decide
    refine ⟨.inl ⟨_, hutf8, by rw [hwhole, List.append_nil]⟩, ?_⟩
    rw [← hwhole, toBytes_append line carry.text, firstLineBytes_append hline h.plain, hwaits]
    exact toBytes_append line []
  · intro hshows
    have hleft : carry.bytes = [] := by
      rcases hshows with ⟨t, ht, htext⟩ | ⟨k, t, rest, hspells, hend⟩
      · rw [List.append_nil] at htext
        have hspells : Spells bs t [] := htext ▸ spells_toBytes ht
        exact (h.spells.unique hspells).2
      · rw [List.take_nil, List.append_nil] at hspells
        obtain ⟨rfl, -⟩ := hspells.unique h.spells
        exact absurd hend h.not_endShows
    exact ⟨[], by rw [decodeEnd, hleft]; rfl⟩

end Reading

/-- **The blocks give the first line if its end shows, and otherwise nothing.** -/
theorem lineOfBlocks_spec {bs content : List UInt8} {line : Text} {carry : Carry}
    (h : Reading bs line carry) :
    (∀ l, lineOfBlocks carry (blocks content) = .ok l →
      ShowsBehind bs content ∧ toBytes (line ++ l) = firstLineBytes (bs ++ content)) ∧
    (ShowsBehind bs content → ∃ l, lineOfBlocks carry (blocks content) = .ok l) := by
  induction content using blocks.induct generalizing bs line carry with
  | case1 content hempty =>
      obtain rfl : content = [] := List.length_eq_zero_iff.mp hempty
      have hblocks : blocks [] = [] := by rw [blocks, dif_pos List.length_nil]
      rw [List.append_nil, hblocks]
      exact h.decodeEnd_spec
  | case2 content hsome ih =>
      have hwhole : bs ++ content.take blockSize ++ content.drop blockSize = bs ++ content := by
        rw [List.append_assoc, List.take_append_drop]
      rw [blocks, dif_neg hsome]
      cases hread : decodeSoFar (carry.bytes ++ content.take blockSize) with
      | error e =>
          constructor
          · intro l hline
            rw [lineOfBlocks, decodeBlock_eq, hread] at hline
            cases hline
          · intro hshows
            obtain ⟨t, bytes, hdecodes⟩ := h.decodes hshows
            rw [hread] at hdecodes
            cases hdecodes
      | ok read =>
          obtain ⟨t, bytes⟩ := read
          by_cases hshows : EndShows (carry.text ++ t)
          · rw [lineOfBlocks_of_endShows hread hshows]
            refine ⟨fun l hline => ?_, fun _ => ⟨_, rfl⟩⟩
            cases hline
            rw [h.firstLineBytes_of_endShows hread hshows (content.drop blockSize), hwhole]
            refine ⟨.inr ⟨1, line ++ carry.text ++ t, bytes, ?_, ?_⟩, rfl⟩
            · rw [Nat.one_mul]
              exact h.spells.append (decodeSoFar_eq_ok_iff.mp hread)
            · rwa [List.append_assoc, endShows_append_iff h.plain]
          · obtain ⟨hsound, hcomplete⟩ := ih (h.next hread hshows)
            rw [h.showsBehind_iff] at hsound hcomplete
            rw [lineOfBlocks_of_not_endShows hread hshows]
            constructor
            · intro l hline
              cases hrest : lineOfBlocks (carryOf (carry.text ++ t) bytes)
                  (blocks (content.drop blockSize)) with
              | error e =>
                  rw [hrest] at hline
                  cases hline
              | ok l' =>
                  rw [hrest] at hline
                  cases hline
                  have hspec := hsound l' hrest
                  rwa [hwhole, List.append_assoc] at hspec
            · intro hlater
              obtain ⟨l', hrest⟩ := hcomplete hlater
              rw [hrest]
              exact ⟨_, rfl⟩

/-- The first line of the file can be read: the whole file is UTF-8, or the line end shows in some
blocks that are the beginning of UTF-8. -/
def FirstLineShows (content : List UInt8) : Prop := ShowsBehind [] content

theorem toBytes_injective {t t' : Text} (ht : isUtf8 t = true) (ht' : isUtf8 t' = true)
    (hbytes : toBytes t = toBytes t') : t = t' := by
  have hread := decode_toBytes ht
  rw [hbytes, decode_toBytes ht'] at hread
  cases hread
  rfl

theorem reading_start : Reading [] [] ⟨[], false⟩ :=
  ⟨⟨rfl, rfl, .inl partial_nil⟩, fun _ hs => absurd hs List.not_mem_nil⟩

/-- **A first line that is read shows**, and it is the text of the bytes in front of the first line
end. -/
theorem firstLine_sound {content : List UInt8} {l : Text} (hread : firstLine content = .ok l) :
    FirstLineShows content ∧ isUtf8 l = true ∧ toBytes l = firstLineBytes content := by
  obtain ⟨hshows, hbytes⟩ := (lineOfBlocks_spec reading_start).1 l hread
  exact ⟨hshows, isUtf8_of_firstLine hread, hbytes⟩

/-- **A first line that shows is read.** -/
theorem firstLine_complete {content : List UInt8} (hshows : FirstLineShows content) :
    ∃ l, firstLine content = .ok l := (lineOfBlocks_spec reading_start).2 hshows

end OtpRegistrar.Text
