/-
What becomes of a text between the file and its variable.

A bare text is taken for a number or a constant where it can be, and a variable for texts
takes numbers as they are written.  The two are made in different places and have to be
inverse to each other, and they are: a number is only taken for one if it is written as it
is printed.  Constants are the exception, since a truth value stays one.

A variable for lists cuts a text at its commas.  To get rid of the blanks around them it
takes out all blanks first, those inside of the items with them, and so the items are found
again only if none of them has any.  A single item is not cut, and keeps its blanks.
-/
import OtpRegistrar.Proofs.Config.FromFile
import OtpRegistrar.Proofs.Value.Scalar

namespace OtpRegistrar.Config

open ConfigFile (Named Bare Frame bareAssignment quotedAssignment)
open Value (SpellsConstant Stands)

/-! ### Texts -/

section

variable {types : List VarType} {t : Text} {value : Value}

/-- A variable for texts takes what a bare text stands for as the text, unless it is a constant. -/
theorem convert_of_stands (htext : .text ∈ types) (hlist : .list ∉ types)
    (hstands : Stands t value) (hconstant : ¬SpellsConstant t) :
    convert types value = .text t := by
  have hshown := Value.shown_of_stands hstands hconstant
  unfold convert
  rw [if_neg (by simpa using hlist), if_pos (by simpa using htext)]
  cases hstands with
  | int hdecimal => exact congrArg Value.text hshown
  | float hread hwritten => exact congrArg Value.text hshown
  | yes hcase => exact absurd (.inl hcase) hconstant
  | no hcase => exact absurd (.inr (.inl hcase)) hconstant
  | nothing hcase => exact absurd (.inr (.inr hcase)) hconstant
  | itself hint hfloat hyes hno hnothing => rfl

/-- What is shown is not passed over. -/
theorem isVoid_of_shown (hnull : value ≠ .null) (hshown : value.shown ≠ []) :
    isVoid value = false := by
  unfold isVoid
  split
  · exact absurd rfl hnull
  · simpa using hshown

theorem isVoid_of_stands (hsome : t ≠ []) (hstands : Stands t value)
    (hconstant : ¬SpellsConstant t) : isVoid value = false := by
  refine isVoid_of_shown ?_ (by rwa [Value.shown_of_stands hstands hconstant])
  rintro rfl
  cases hstands with
  | nothing hcase => exact hconstant (.inr (.inr hcase))

end

/-- **A bare text that is no constant comes to its variable unchanged**, whatever number it is taken
for on the way. -/
theorem load_keeps_text {tool : Value} {file : Text} {h : Host}
    (hmake : make tool file = .ok h.config) (calls : List Call) {files : FileTree}
    {options : Options} {parameter name t ending : Text} {types : List VarType}
    (hset : (after calls h).config.MaySet files options.entries
      (bareAssignment parameter t ++ ending) parameter name types)
    (hending : ending = [] ∨ ending = Text.newline)
    (htext : .text ∈ types) (hlist : .list ∉ types)
    (hname : Named parameter) (ht : Bare t) (hconstant : ¬SpellsConstant t) (quiet : Bool) :
    Leaves ((Call.load files options quiet).action.runOn (after calls h)) name (.text t) := by
  have horderly := (orderly_of_make hmake).after calls
  have hstands := Value.stands_ofScalar t
  have hconverted := convert_of_stands htext hlist hstands hconstant
  have hvoid := isVoid_of_stands ht.nonempty hstands hconstant
  have hallowed : allows types (convert types (Value.ofScalar t)) = true := by
    rw [hconverted]
    exact allows_of_mem htext rfl
  have hline := ConfigFile.linesOf_of_not_mem (ConfigFile.noBreak_bareAssignment hname ht)
  have hfile := ConfigFile.ofText_bareAssignment hname ht
  rw [← hconverted]
  rcases hending with rfl | rfl
  · refine MaySet.leaves_line (h := { after calls h with files }) hset horderly
      (Frame.alone parameter) ?_ hfile (by simp [Frame.alone]) hvoid hallowed quiet
    rw [List.append_nil, hline]
    rfl
  · refine MaySet.leaves_line (h := { after calls h with files }) hset horderly
      (Frame.ended parameter) ?_ hfile (by simp [Frame.ended]) hvoid hallowed quiet
    rw [Text.newline, ConfigFile.linesOf_append, hline]
    rfl

/-- Files of which one has the given text. -/
def filesWith (t : Text) : FileTree :=
  (FileTree.empty "/").plant (Place.ofPath "c.conf") (.file (Text.toBytes t))

/-- The option that names this file. -/
def fileOptions : Options where
  entries := [("config_file", .text "c.conf")]
  distinct := by decide
  free := by decide

theorem finds_filesWith {c : Config} {t : Text} (hpath : c.get "config_file" = .text "c.conf")
    (hdecoded : Text.decodeFile (Text.toBytes t) = .ok t) : c.Finds (filesWith t) t :=
  ⟨"c.conf", Text.toBytes t, hpath, rfl, rfl, hdecoded⟩

/-- A file name that is a number with an exponent is kept. -/
theorem load_keeps_text_number :
    let t := Text.ofString "1e+16"
    let content := bareAssignment "LDAP_BIND_PASSWORD_FILE" t ++ Text.newline
    (startedHost.config.MaySet (filesWith content) fileOptions.entries content
        "LDAP_BIND_PASSWORD_FILE" "ldap_bind_password_file" [.text] ∧
      Named "LDAP_BIND_PASSWORD_FILE" ∧ Bare t ∧ ¬SpellsConstant t) ∧
    Leaves ((Call.load (filesWith content) fileOptions true).action.runOn startedHost)
      "ldap_bind_password_file" (.text t) := by
  intro t content
  have hset : startedHost.config.MaySet (filesWith content) fileOptions.entries content
      "LDAP_BIND_PASSWORD_FILE" "ldap_bind_password_file" [.text] := by
    refine ⟨by decide +kernel, by decide +kernel, by decide, rfl, ?_⟩
    exact finds_filesWith rfl rfl
  have hname : Named "LDAP_BIND_PASSWORD_FILE" := by decide
  have ht : Bare t := by decide
  have hconstant : ¬SpellsConstant t := by decide
  refine ⟨⟨hset, hname, ht, hconstant⟩, ?_⟩
  exact load_keeps_text make_startedHost [] hset (.inr rfl) (by decide) (by decide) hname ht
    hconstant true

/-! ### Lists -/

/-- The text is the items with a comma between neighbours, and any number of blanks on both sides
of each comma. -/
inductive Joined : List Text → Text → Prop
  | one (item : Text) : Joined [item] item
  | more {items : List Text} {rest : Text} (item : Text) (before behind : Nat)
      (hrest : Joined items rest) :
      Joined (item :: items)
        (item ++ Text.blanks before ++ .char ',' :: (Text.blanks behind ++ rest))

/-- What an item has to be to be told from its neighbours. -/
structure IsItem (item : Text) : Prop where
  nonempty : item ≠ []
  noComma : Symbol.char ',' ∉ item

instance (item : Text) : Decidable (IsItem item) :=
  decidable_of_iff (item ≠ [] ∧ Symbol.char ',' ∉ item)
    ⟨fun ⟨h1, h2⟩ => ⟨h1, h2⟩, fun ⟨h1, h2⟩ => ⟨h1, h2⟩⟩

/-- The items as a variable for lists finds them again: without blanks, if there are several. -/
def found (items : List Text) : List Text :=
  if items.length = 1 then items else items.map (Text.without (.char ' '))

section

variable {items : List Text} {t : Text}

theorem Joined.length_pos (hjoined : Joined items t) : 0 < items.length := by
  cases hjoined with
  | one item => exact Nat.one_pos
  | more item before behind hrest => exact Nat.succ_pos _

/-- There is a comma if there are several items. -/
theorem Joined.comma_mem_iff (hjoined : Joined items t) (hitems : ∀ item ∈ items, IsItem item) :
    Symbol.char ',' ∈ t ↔ items.length ≠ 1 := by
  cases hjoined with
  | one item => simp [(hitems t (by simp)).noComma]
  | more item before behind hrest =>
      have hpos := hrest.length_pos
      simp only [List.mem_append, List.mem_cons, true_or, or_true, List.length_cons, true_iff]
      omega

theorem Joined.nonempty (hjoined : Joined items t) (hitems : ∀ item ∈ items, IsItem item) :
    t ≠ [] := by
  cases hjoined with
  | one item => exact (hitems t (by simp)).nonempty
  | more item before behind hrest => simp

/-- Without blanks the text is cut into the items without blanks. -/
theorem Joined.splitOn (hjoined : Joined items t) (hitems : ∀ item ∈ items, IsItem item) :
    Text.splitOn (.char ',') (Text.without (.char ' ') t) =
      items.map (Text.without (.char ' ')) := by
  have hcomma : ∀ item : Text, IsItem item → Symbol.char ',' ∉ Text.without (.char ' ') item :=
    fun item hitem hmem => hitem.noComma (List.mem_of_mem_filter hmem)
  induction hjoined with
  | one item => exact Text.splitOn_of_not_mem (hcomma item (hitems item (by simp)))
  | @more items rest item before behind hrest ih =>
      obtain ⟨hfirst, hothers⟩ := List.forall_mem_cons.mp hitems
      have hshort : Text.without (.char ' ')
          (item ++ Text.blanks before ++ .char ',' :: (Text.blanks behind ++ rest)) =
          Text.without (.char ' ') item ++ .char ',' :: Text.without (.char ' ') rest := by
        rw [Text.without_append, Text.without_append, Text.without_cons (by decide),
          Text.without_append, Text.without_blanks, Text.without_blanks, List.append_nil,
          List.nil_append]
      rw [hshort, Text.splitOn_append_cons, Text.splitOn_of_not_mem (hcomma item hfirst),
        ih hothers]
      rfl

/-- **A variable for lists finds the items**, less the blanks inside of them if there are several.
-/
theorem convert_of_joined {types : List VarType} (hlist : .list ∈ types)
    (hjoined : Joined items t) (hitems : ∀ item ∈ items, IsItem item) :
    convert types (.text t) = .list ((found items).map .text) := by
  have hcomma := hjoined.comma_mem_iff hitems
  unfold convert found
  rw [if_pos (by simpa using hlist)]
  dsimp only
  by_cases hsingle : items.length = 1
  · rw [if_neg (by simpa [hsingle] using hcomma), if_pos hsingle]
    cases hjoined with
    | one item => rfl
    | more item before behind hrest =>
        have hpos := hrest.length_pos
        rw [List.length_cons] at hsingle
        omega
  · rw [if_pos (by simpa [hsingle] using hcomma), if_neg hsingle, hjoined.splitOn hitems]

/-- The items are found as they are if there is one, or if none has a blank inside. -/
theorem found_eq_self_iff :
    found items = items ↔ items.length = 1 ∨ ∀ item ∈ items, Symbol.char ' ' ∉ item := by
  unfold found
  by_cases hsingle : items.length = 1
  · simp [hsingle]
  · have hall : items.map (Text.without (.char ' ')) = items ↔
        ∀ item ∈ items, Text.without (.char ' ') item = item := by
      conv_lhs => rhs; rw [← List.map_id items]
      exact List.map_inj_left
    rw [if_neg hsingle, hall]
    simp only [hsingle, Text.without_eq_self_iff, false_or]

end

/-- **Items in quotes with commas between them come to their variable as a list**, and it is the
list of the items if and only if there is one item, or none has a blank inside. -/
theorem load_keeps_items_iff {tool : Value} {file : Text} {h : Host}
    (hmake : make tool file = .ok h.config) (calls : List Call) {files : FileTree}
    {options : Options} {parameter name joined t : Text} {types : List VarType}
    {items : List Text}
    (hset : (after calls h).config.MaySet files options.entries t parameter name types)
    (hlist : .list ∈ types) (hname : Named parameter)
    (hitems : ∀ item ∈ items, IsItem item) (hjoined : Joined items joined)
    (frame : Frame parameter)
    (hlines : ConfigFile.linesOf t = frame.lines (quotedAssignment parameter joined))
    (hothers : ∀ entry ∈ frame.earlier ++ frame.later, entry.1 ≠ parameter →
      ((after calls h).config.override options.entries).1.Takes entry) (quiet : Bool) :
    Leaves ((Call.load files options quiet).action.runOn (after calls h)) name
        (.list ((found items).map .text)) ∧
      (((Call.load files options quiet).action.runOn (after calls h)).2.config.get? name =
          some (.list (items.map .text)) ↔
        items.length = 1 ∨ ∀ item ∈ items, Symbol.char ' ' ∉ item) := by
  have horderly := (orderly_of_make hmake).after calls
  have hconverted := convert_of_joined hlist hjoined hitems
  have hvoid : isVoid (.text joined) = false :=
    isVoid_of_shown (by simp) (hjoined.nonempty hitems)
  have hallowed : allows types (convert types (.text joined)) = true := by
    rw [hconverted]
    exact allows_of_mem hlist rfl
  have hleaves : Leaves ((Call.load files options quiet).action.runOn (after calls h)) name
      (.list ((found items).map .text)) := by
    rw [← hconverted]
    exact MaySet.leaves_line (h := { after calls h with files }) hset horderly frame hlines
      (ConfigFile.ofText_quotedAssignment hname joined) hothers hvoid hallowed quiet
  refine ⟨hleaves, ?_⟩
  have hinjective : Function.Injective (List.map Value.text) :=
    List.map_injective_iff.mpr fun s t heq => Value.text.inj heq
  rw [hleaves.value, ← found_eq_self_iff]
  constructor
  · intro heq
    exact hinjective (Value.list.inj (Option.some.inj heq))
  · intro heq
    rw [heq]

/-- A variable for lists, as it is registered. -/
def suffixes : VariableName := ⟨"suffixes", by decide⟩

/-- The call that registers it with a parameter. -/
def listing : List Call := [.register suffixes [.list] .null (some "SUFFIXES")]

theorem maySet_suffixes {t : Text} (hdecoded : Text.decodeFile (Text.toBytes t) = .ok t) :
    (after listing startedHost).config.MaySet (filesWith t) fileOptions.entries t "SUFFIXES"
      suffixes [.list] := by
  have htables :
      find? (after listing startedHost).config.parameters "SUFFIXES" = some suffixes.val ∧
      find? (after listing startedHost).config.types suffixes = some [.list] ∧
      suffixes.val ∉ (after listing startedHost).config.overridden ++
        fileOptions.entries.map (·.1) := by decide +kernel
  exact ⟨htables.1, htables.2.1, htables.2.2, rfl, finds_filesWith rfl hdecoded⟩

/-- Another list in front of the list, and a comment behind it. -/
def repeatedFrame : Frame "SUFFIXES" where
  before := ["SUFFIXES='dc=old'"]
  behind := ["# end"]
  earlier := [("SUFFIXES", .text "dc=old")]
  later := []
  read_before := rfl
  read_behind := rfl
  last := List.not_mem_nil

/-- Blanks around commas are no matter, and neither is an earlier list. -/
theorem load_keeps_items_iff_repeated :
    let items := [Text.ofString "dc=a", Text.ofString "dc=b", Text.ofString "\"dc=c"]
    let joined := Text.ofString "dc=a ,dc=b,  \"dc=c"
    let content := Text.join Text.newline (repeatedFrame.lines (quotedAssignment "SUFFIXES" joined))
    ((after listing startedHost).config.MaySet (filesWith content) fileOptions.entries content
        "SUFFIXES" suffixes [.list] ∧
      Named "SUFFIXES" ∧ (∀ item ∈ items, IsItem item) ∧ Joined items joined) ∧
    ((Call.load (filesWith content) fileOptions true).action.runOn
      (after listing startedHost)).2.config.get? suffixes = some (.list (items.map .text)) := by
  intro items joined content
  have hset : (after listing startedHost).config.MaySet (filesWith content) fileOptions.entries
      content "SUFFIXES" suffixes [.list] := maySet_suffixes rfl
  have hname : Named "SUFFIXES" := by decide
  have hitems : ∀ item ∈ items, IsItem item := by decide
  have hjoined : Joined items joined := .more "dc=a" 1 0 (.more "dc=b" 0 2 (.one "\"dc=c"))
  have hothers : ∀ entry ∈ repeatedFrame.earlier ++ repeatedFrame.later,
      entry.1 ≠ Text.ofString "SUFFIXES" →
      ((after listing startedHost).config.override fileOptions.entries).1.Takes entry := by
    intro entry hmem hother
    rw [List.mem_singleton.mp hmem] at hother
    exact absurd rfl hother
  refine ⟨⟨hset, hname, hitems, hjoined⟩, ?_⟩
  exact (load_keeps_items_iff make_startedHost listing hset (by decide) hname hitems hjoined
    repeatedFrame rfl hothers true).2.mpr (.inr (by decide))

/-- A blank inside of an item is lost with the one behind the comma. -/
theorem load_loses_blank :
    let items := [Text.ofString "dc=a b", Text.ofString "dc=c"]
    let joined := Text.ofString "dc=a b, dc=c"
    let content := quotedAssignment "SUFFIXES" joined
    let call := Call.load (filesWith content) fileOptions true
    let r := call.action.runOn (after listing startedHost)
    ((after listing startedHost).config.MaySet (filesWith content) fileOptions.entries content
        "SUFFIXES" suffixes [.list] ∧
      Named "SUFFIXES" ∧ (∀ item ∈ items, IsItem item ∧ item.strip = item) ∧
      Joined items joined) ∧
    r.2.config.get? suffixes = some (.list [.text "dc=ab", .text "dc=c"]) ∧
    r.2.config.get? suffixes ≠ some (.list (items.map .text)) := by
  intro items joined content call r
  have hset : (after listing startedHost).config.MaySet (filesWith content) fileOptions.entries
      content "SUFFIXES" suffixes [.list] := maySet_suffixes rfl
  have hname : Named "SUFFIXES" := by decide
  have hjoined : Joined items joined := .more "dc=a b" 0 1 (.one "dc=c")
  have horderly := (orderly_of_make make_startedHost).after listing
  have hleaves : Leaves r suffixes (convert [.list] (.text joined)) :=
    MaySet.leaves_line (h := { after listing startedHost with files := filesWith content }) hset
      horderly (Frame.alone "SUFFIXES") rfl (ConfigFile.ofText_quotedAssignment hname joined)
      (by simp [Frame.alone]) rfl rfl true
  have hlost : r.2.config.get? suffixes = some (.list [.text "dc=ab", .text "dc=c"]) :=
    hleaves.value
  refine ⟨⟨hset, hname, by decide, hjoined⟩, hlost, ?_⟩
  rw [hlost]
  intro heq
  have hitem : Text.ofString "dc=ab" = Text.ofString "dc=a b" := by
    simpa [items] using heq
  exact absurd hitem (by decide)

end OtpRegistrar.Config
