/-
Upper and lower case, by the full mappings of Unicode.

One letter may become several, and the Greek capital sigma has two lower-case forms: the final one
where a letter stands before it and none behind it, letters being looked for past the code points
that casing ignores.
-/
import OtpRegistrar.Text.Basic
import OtpRegistrar.Text.Table.Casing
namespace OtpRegistrar

namespace Symbol

/-- Where the runs send a code point; one that no run holds stays. -/
private def shifted (runs : List (Nat × Nat × Nat × Nat)) (n : Nat) : Nat :=
  match runs.find? fun (first, last, step, _) =>
      first ≤ n && n ≤ last && (n - first) % step == 0 with
  | some (first, _, _, image) => image + (n - first)
  | none => n

/-- A full mapping where there is one, else the simple one. -/
private def mapped (full : List (Nat × List Nat)) (runs : List (Nat × Nat × Nat × Nat))
    (n : Nat) : Text :=
  match full.find? fun (code, _) => code == n with
  | some (_, codes) => codes.map ofCode
  | none => [ofCode (shifted runs n)]

/-- The upper case of one symbol. -/
def upper : Symbol → Text
  | char c =>
    if c.toNat < 128 then [char c.toUpper]
    else mapped Text.Table.upperFull Text.Table.upperRuns c.toNat
  | stray low => [stray low]

/-- The lower case of one symbol, its neighbours left aside. -/
def lower : Symbol → Text
  | char c =>
    if c.toNat < 128 then [char c.toLower]
    else mapped Text.Table.lowerFull Text.Table.lowerRuns c.toNat
  | stray low => [stray low]

/-- No code point but that of the Kelvin sign is sent to one of ASCII from outside of it. -/
private theorem shifted_foreign {n : Nat} (hn : 128 ≤ n) :
    shifted Text.Table.lowerRuns n = 107 ∨ 128 ≤ shifted Text.Table.lowerRuns n := by
  have hruns : Text.Table.lowerRuns.all (fun (first, last, _, image) =>
      decide (last < 128) || decide (128 ≤ image) || (first == last && image == 107)) = true := by
    decide +kernel
  unfold shifted
  split
  · rename_i first last step image hfound
    have hrun := List.all_eq_true.mp hruns _ (List.mem_of_find?_eq_some hfound)
    have hin := List.find?_some hfound
    simp at hrun hin
    omega
  · exact .inr hn

private theorem ofCode_foreign {n : Nat} (hn : 128 ≤ n) :
    ofCode n = char (Char.ofNat 0) ∨ 128 ≤ (ofCode n).code := by
  unfold ofCode
  split
  · exact .inr (Nat.le_add_right_of_le (by omega))
  · by_cases hvalid : n.isValidChar
    · refine .inr ?_
      show 128 ≤ (Char.ofNat n).toNat
      unfold Char.ofNat
      rw [dif_pos hvalid]
      exact hn
    · refine .inl ?_
      unfold Char.ofNat
      rw [dif_neg hvalid]
      rfl

/-- The lower case of a symbol outside of ASCII begins with no letter of ASCII but two. -/
theorem lower_foreign {c : Char} (hc : 128 ≤ c.toNat) :
    ∃ s rest, (char c).lower = s :: rest ∧
      (s = char 'i' ∨ s = char 'k' ∨ s = char (Char.ofNat 0) ∨ 128 ≤ s.code) := by
  have hfull : Text.Table.lowerFull.all (fun (_, codes) => codes.head? == some 105) = true := by
    decide
  unfold lower mapped
  dsimp only
  rw [if_neg (by omega)]
  split
  · rename_i codes hfound
    have hhead := List.all_eq_true.mp hfull _ (List.mem_of_find?_eq_some hfound)
    cases codes with
    | nil => cases hhead
    | cons code codes =>
        obtain rfl : code = 105 := by simpa using hhead
        exact ⟨_, _, rfl, .inl rfl⟩
  · refine ⟨_, _, rfl, ?_⟩
    rcases shifted_foreign hc with hkelvin | hforeign
    · rw [hkelvin]
      exact .inr (.inl rfl)
    · exact .inr (.inr (ofCode_foreign hforeign))

/-- Is the symbol passed over when letters are looked for? -/
def isCaseIgnorable : Symbol → Bool
  | char c => Text.inRanges Text.Table.caseIgnorable c.toNat
  | stray _ => false

/-- Is the symbol a letter that has case? -/
def isCased : Symbol → Bool
  | char c => Text.inRanges Text.Table.cased c.toNat
  | stray _ => false

end Symbol

namespace Text

/-- Does a cased letter come first, ignorable symbols left aside? -/
private def meetsLetter (t : Text) : Bool :=
  match t.dropWhile Symbol.isCaseIgnorable with
  | [] => false
  | s :: _ => s.isCased

/-- Lower case from a position on; `before` is what stands in front of it, nearest symbol first. -/
private def lowerFrom (before : Text) : Text → Text
  | [] => []
  | s :: t =>
    (if s = .char 'Σ' then
      [.char (if meetsLetter before && !meetsLetter t then 'ς' else 'σ')]
    else s.lower) ++ lowerFrom (s :: before) t

/-- The lower case of a text. -/
def lower (t : Text) : Text := lowerFrom [] t

/-- Without a capital sigma every symbol has its lower case by itself. -/
theorem lower_eq_flatMap {t : Text} (hsigma : Symbol.char 'Σ' ∉ t) :
    lower t = t.flatMap Symbol.lower := by
  have hfrom : ∀ before, lowerFrom before t = t.flatMap Symbol.lower := by
    induction t with
    | nil => exact fun _ => rfl
    | cons s t ih =>
        intro before
        have hs : ¬s = .char 'Σ' := fun heq => hsigma (heq ▸ List.mem_cons_self)
        rw [lowerFrom, if_neg hs, ih (fun hmem => hsigma (List.mem_cons_of_mem _ hmem)),
          List.flatMap_cons]
  exact hfrom []

/-- A capital sigma is still a sigma in lower case. -/
theorem mem_lower_of_mem {t : Text} (hsigma : Symbol.char 'Σ' ∈ t) :
    Symbol.char 'ς' ∈ lower t ∨ Symbol.char 'σ' ∈ lower t := by
  have hfrom : ∀ before, Symbol.char 'ς' ∈ lowerFrom before t ∨
      Symbol.char 'σ' ∈ lowerFrom before t := by
    induction t with
    | nil => cases hsigma
    | cons s t ih =>
        intro before
        rw [lowerFrom]
        rcases List.mem_cons.mp hsigma with rfl | hmem
        · rw [if_pos rfl]
          split
          · exact .inl (List.mem_append_left _ List.mem_cons_self)
          · exact .inr (List.mem_append_left _ List.mem_cons_self)
        · exact (ih hmem (s :: before)).imp (List.mem_append_right _) (List.mem_append_right _)
  exact hfrom []

/-- The upper case of a text. -/
def upper (t : Text) : Text := t.flatMap Symbol.upper

end Text

end OtpRegistrar
