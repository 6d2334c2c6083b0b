/-
Files that are appended to.

A file is opened for appending and grows from then on.  Opening it leaves everything as it is or
puts an empty file where nothing was, so afterwards there is a file at the place.  Appending to it
adds the bytes behind those that are there, and what stands at any other place is not touched.
-/
import OtpRegistrar.FileTree

namespace OtpRegistrar

/-- The node with more bytes behind it, if it is a file. -/
def FileNode.extended (bytes : List UInt8) : FileNode → FileNode
  | file content => file (content ++ bytes)
  | directory => directory

namespace FileTree

variable {tree files : FileTree} {place : Place} {path : Text}

/-- Where nothing stands is none of the two bases. -/
theorem steps_of_none (hnone : tree.node? place = none) : place.steps.isEmpty = false := by
  by_cases hbase : place.steps.isEmpty = true
  · simp [node?, hbase] at hnone
  · simpa using hbase

theorem node?_put_self (hsteps : place.steps.isEmpty = false) (node : FileNode) :
    (tree.put place node).node? place = some node := by
  have hgone : (tree.nodes.filter (·.1 != place)).find? (·.1 == place) = none := by
    refine List.find?_eq_none.mpr ?_
    intro q hq
    have hne := (List.mem_filter.mp hq).2
    simpa using hne
  simp [node?, put, hsteps, List.find?_append, hgone]

/-- **Appending changes what stands at the place, and nothing else.** -/
theorem node?_append (tree : FileTree) (place p : Place) (bytes : List UInt8) :
    (tree.append place bytes).node? p =
      (tree.node? p).map fun node => if p = place then node.extended bytes else node := by
  by_cases hbase : p.steps.isEmpty = true
  · simp [node?, hbase, FileNode.extended]
  have hnodes : (tree.append place bytes).nodes = tree.nodes.map fun q =>
      (q.1, if q.1 = place then q.2.extended bytes else q.2) := by
    refine List.map_congr_left ?_
    intro q _
    obtain ⟨spot, node⟩ := q
    by_cases hplace : spot = place <;> cases node <;> simp [hplace, FileNode.extended]
  simp only [node?, hbase, hnodes, List.find?_map, Bool.false_eq_true, if_false]
  have hsame : ((fun q : Place × FileNode => q.1 == p) ∘ fun q : Place × FileNode =>
      (q.1, if q.1 = place then q.2.extended bytes else q.2)) = fun q => q.1 == p := rfl
  rw [hsame]
  cases hfound : tree.nodes.find? (·.1 == p) with
  | none => rfl
  | some q =>
      have hq : q.1 = p := by simpa using List.find?_some hfound
      simp [hq]

/-- What is opened for appending has been there as a file, or is a new one without content. -/
theorem openAppend_inv (hopened : tree.openAppend path = .ok (files, place)) :
    (files = tree ∧ ∃ content, tree.node? place = some (.file content)) ∨
      tree.node? place = none ∧ files = tree.put place (.file []) := by
  unfold openAppend at hopened
  dsimp only at hopened
  split at hopened
  · cases hopened
  split at hopened
  · cases hopened
  split at hopened
  · cases hopened
  · rename_i content hfile
    cases hopened
    exact .inl ⟨rfl, content, hfile⟩
  · rename_i hnone
    cases hopened
    exact .inr ⟨hnone, rfl⟩

/-- There is a file where one was opened. -/
theorem node?_of_openAppend (hopened : tree.openAppend path = .ok (files, place)) :
    ∃ content, files.node? place = some (.file content) := by
  obtain ⟨rfl, hfile⟩ | ⟨hnone, rfl⟩ := openAppend_inv hopened
  · exact hfile
  · exact ⟨[], node?_put_self (steps_of_none hnone) _⟩

end FileTree

end OtpRegistrar
