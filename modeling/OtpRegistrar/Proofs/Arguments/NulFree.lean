/-
Lines without a NUL.

The token of a command line ends where there is a NUL, so no line that a process is
given holds one.  Reading such a line never stops at a path, and an argument with a
value is bound to a text without a NUL again: the value is part of a token, and all
that is put in for a tilde and a name is the home directory of a user.
-/
import OtpRegistrar.FileTree
import OtpRegistrar.Proofs.Arguments.Segment

namespace OtpRegistrar

/-- The text holds no NUL. -/
def Text.NulFree (t : Text) : Prop := Symbol.char '\x00' ∉ t

theorem FileTree.hasNul_eq_false_iff {path : Text} : hasNul path = false ↔ path.NulFree := by
  unfold hasNul Text.NulFree
  simp

/-- No user has a home directory with a NUL in its path. -/
def Homes.NulFree (homes : Homes) : Prop := ∀ name home, homes name = some home → home.NulFree

theorem Homes.nulFree_own {home : Text} (hhome : home.NulFree) : (own home).NulFree := by
  intro name home' hfound
  unfold own at hfound
  split at hfound
  · cases hfound
    exact hhome
  · cases hfound

namespace CommandLine

/-! ### Paths -/

theorem namesNul_of_nulFree {t : Text} (ht : t.NulFree) : namesNul t = false := by
  unfold namesNul
  split
  · rename_i rest
    have hname : Symbol.char '\x00' ∉ rest.takeWhile (· != .char '/') := fun hmem =>
      ht (List.mem_cons_of_mem _ ((List.takeWhile_prefix _).subset hmem))
    simpa using hname
  · rfl

theorem cannotTake_of_nulFree (a : Argument) {t : Text} (ht : t.NulFree) :
    cannotTake a t = false := by
  unfold cannotTake
  rw [namesNul_of_nulFree ht, Bool.and_false]

/-- What a home directory is put in for has no NUL if neither of them has. -/
theorem nulFree_expandHome {homes : Homes} {path : Text} (hhomes : homes.NulFree)
    (hpath : path.NulFree) : (expandHome homes path).NulFree := by
  unfold expandHome
  split
  · rename_i rest
    split
    · rename_i home hfound
      dsimp only
      split
      · unfold Text.NulFree
        decide
      · intro hmem
        rcases List.mem_append.mp hmem with hmem | hmem
        · exact Text.not_mem_stripRightOf (hhomes _ home hfound) hmem
        · exact hpath (List.mem_cons_of_mem _ ((List.dropWhile_suffix _).subset hmem))
    · exact hpath
  · exact hpath

theorem nulFree_valueFor {homes : Homes} {t : Text} (a : Argument) (hhomes : homes.NulFree)
    (ht : t.NulFree) : ∃ t', valueFor homes a t = .text t' ∧ t'.NulFree := by
  unfold valueFor
  split
  · exact ⟨_, rfl, nulFree_expandHome hhomes ht⟩
  · exact ⟨t, rfl, ht⟩

/-! ### Lines -/

/-- No token of the line holds a NUL. -/
def NulFree (line : List Text) : Prop := ∀ token ∈ line, token.NulFree

/-- The value joined to an option is part of its token. -/
theorem nulFree_of_split {token option value : Text} (htoken : token.NulFree)
    (hsplit : (match Text.splitFirst? (.char '=') token with
      | some (option, value) => (option, some value)
      | none => (token, none)) = (option, some value)) : value.NulFree := by
  obtain ⟨-, rfl⟩ := split_token hsplit
  exact fun hmem => htoken (List.mem_append_right _ (List.mem_cons_of_mem _ hmem))

/-- **Reading a line without a NUL does not stop at a path.** -/
theorem scan_ne_nulInPath (homes : Homes) (arguments : List Argument) (bound : Bindings)
    {line : List Text} (hline : NulFree line) :
    (scan homes arguments bound line).2 ≠ .error .nulInPath := by
  have hfinish : ∀ bound, finish arguments bound ≠ .error .nulInPath := by
    intro bound
    unfold finish
    split <;> simp
  fun_induction scan homes arguments bound line with
  | case1 bound => exact hfinish bound
  | case3 bound => exact hfinish bound
  | case9 bound token rest _ _ _ option a _ _ _ _ ih => exact ih (List.forall_mem_cons.mp hline).2
  | case10 bound token rest _ _ _ option a _ _ _ value htake hsplit =>
      have hvalue := nulFree_of_split (hline _ List.mem_cons_self) hsplit
      rw [cannotTake_of_nulFree a hvalue] at htake
      cases htake
  | case11 bound token rest _ _ _ option a _ _ _ value _ _ ih =>
      exact ih (List.forall_mem_cons.mp hline).2
  | case13 bound token _ _ _ option a _ _ _ value rest htake _ =>
      have hvalue := hline value (List.mem_cons_of_mem _ List.mem_cons_self)
      rw [cannotTake_of_nulFree a hvalue] at htake
      cases htake
  | case14 bound token _ _ _ option a _ _ _ value rest _ _ ih =>
      exact ih fun t ht => hline t (List.mem_cons_of_mem _ (List.mem_cons_of_mem _ ht))
  | _ => simp

/-- What is given with a piece of the line is part of a token. -/
theorem Piece.nulFree_value? {arguments : List Argument} {p : Piece arguments} {t : Text}
    (htokens : NulFree p.segment.tokens) (ht : p.segment.value? = some t) : t.NulFree := by
  cases hsegment : p.segment with
  | alone option =>
      rw [hsegment] at ht
      cases ht
  | joined option value =>
      rw [hsegment] at ht htokens
      cases ht
      have htoken := htokens _ List.mem_cons_self
      exact fun hmem => htoken (List.mem_append_right _ (List.mem_cons_of_mem _ hmem))
  | apart option value =>
      rw [hsegment] at ht htokens
      cases ht
      exact htokens _ (List.mem_cons_of_mem _ List.mem_cons_self)

/-- **What an argument with a value is bound to has no NUL** if neither the line nor a home
directory has one. -/
theorem Consists.nulFree {homes : Homes} {arguments : List Argument} {line : List Text}
    {bound : Bindings} {pieces : List (Piece arguments)}
    (hconsists : Consists homes line [] pieces bound) (hline : NulFree line)
    (hhomes : homes.NulFree) {name : Text}
    (hvalued : ∀ a ∈ arguments, a.variableName = name → a.flag = none) {t : Text}
    (ht : (bound.get? name).bind Value.text? = some t) : t.NulFree := by
  rw [hconsists.get?_eq] at ht
  obtain ⟨v, hv, hvt⟩ := Option.bind_eq_some_iff.mp ht
  obtain ⟨p, hfind, rfl⟩ := Option.map_eq_some_iff.mp hv
  have hname : p.name = name := by simpa using List.find?_some hfind
  obtain ⟨given, hgiven, hvalue⟩ :=
    Piece.value_of_flag_none homes (hvalued _ p.argument_mem hname)
  have htokens : NulFree p.segment.tokens := by
    intro token htoken
    obtain ⟨ending, -, hpieces⟩ := hconsists.ends
    refine hline token ?_
    rw [hpieces]
    exact List.mem_append_left _ (List.mem_flatMap.mpr ⟨p, List.mem_of_find?_eq_some hfind, htoken⟩)
  obtain ⟨t', ht', hfree⟩ :=
    nulFree_valueFor p.argument hhomes (Piece.nulFree_value? htokens hgiven)
  rw [hvalue, ht'] at hvt
  cases hvt
  exact hfree

end CommandLine

end OtpRegistrar
