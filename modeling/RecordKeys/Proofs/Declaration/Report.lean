/-
The report about a declaration. It is told member by member: what is wrong with a member is told
from that member, and from nothing else but whether an earlier member has been singled out. So no
fault hides, repeats or makes up another one, and a declaration has its code exactly when there is
nothing to report.
-/
import RecordKeys.Proofs.Declaration.Code

namespace RecordKeys

/-! ## Members -/

namespace Form

/-- Whether what follows the name of a member is as it has to be: a colon and a type in a record,
nothing or a value in an enumeration. -/
def admits : Form → List Tree → Bool
  | record, .punct ':' _ :: _ :: _ => true
  | enumeration, [] => true
  | enumeration, .punct '=' _ :: _ => true
  | _, _ => false

/-- The complaint about a member when it is not. -/
def misshapen : Form → Complaint
  | record => .notTyped
  | enumeration => .carriesData

/-- The argument that singles a member out. -/
def singling : Form → Argument
  | record => .parent
  | enumeration => .null

end Form

/-- Whether an argument is kept: all are but a new name that is no text. -/
def Argument.isKept : Argument → Bool
  | .rename literal => (Text.literalText? literal).isSome
  | _ => true

/-- Whether one of the arguments gives a new name. -/
def Argument.rename? (arguments : List Argument) : Bool := arguments.any (·.newName?.isSome)

namespace Complaint

/-- What is wrong with arguments on a member. `taken` says whether an earlier member has been
singled out. -/
def ofUse (form : Form) (taken : Bool) (arguments : List Argument) : List Complaint :=
  match form with
  | .record =>
    (if .null ∈ arguments then [.nullOnField] else [])
    ++ (if .parent ∈ arguments ∧ (Argument.rename? arguments ∨ .skip ∈ arguments)
      then [.namedParent] else [])
    ++ (if .parent ∈ arguments ∧ taken then [.secondParent] else [])
  | .enumeration =>
    (if .parent ∈ arguments then [.parentOnVariant] else [])
    ++ (if .null ∈ arguments ∧ taken then [.secondNull] else [])
    ++ (if .null ∈ arguments ∧ Argument.rename? arguments then [.namedNull] else [])

/-- What is wrong with a member. -/
def ofMember (form : Form) (taken : Bool) (member : List Tree) : List Complaint :=
  match Item.read? member with
  | none => [.notAMember]
  | some item =>
    if form.admits item.rest then
      item.attributes.flatMap ofAttribute ++ ofUse form taken (Argument.given item.attributes)
    else [form.misshapen]

end Complaint

/-- Whether a member is well formed and singled out. -/
def Form.singles (form : Form) (member : List Tree) : Bool :=
  match Item.read? member with
  | none => false
  | some item => form.admits item.rest && decide (form.singling ∈ Argument.given item.attributes)

namespace Complaint

/-- What is wrong with members, one after the other. -/
def ofMembers (form : Form) (members : List (List Tree)) : List Complaint :=
  members.zipIdx.flatMap fun (member, i) => ofMember form ((members.take i).any form.singles) member

/-- What is wrong with the attributes of a type. -/
def ofType (attributes : List (List Tree)) : List Complaint :=
  attributes.flatMap ofAttribute ++
    (if (Argument.given attributes).any (·.isKept) then [.argumentsOnType] else [])

end Complaint

/-- What is wrong with a declaration. -/
def Declaration.report (d : Declaration) : List Complaint :=
  match d.body with
  | .error c => [c]
  | .ok body => Complaint.ofType d.item.attributes ++ Complaint.ofMembers d.form (Body.members body)

/-! ## One member -/

namespace Traits

theorem isSome_rename_ofGiven (arguments : List Argument) (doc : List String) :
    (ofGiven arguments doc).rename.isSome = Argument.rename? arguments := by
  rw [Bool.eq_iff_iff, ofGiven, List.getLast?_isSome, Argument.rename?, List.any_eq_true, ne_eq,
    List.filterMap_eq_nil_iff]
  simp [Option.isSome_iff_ne_none]

theorem hasArgument_ofGiven (arguments : List Argument) (doc : List String) :
    (ofGiven arguments doc).hasArgument = arguments.any (·.isKept) := by
  rw [Bool.eq_iff_iff, hasArgument, isSome_rename_ofGiven, Argument.rename?]
  simp only [ofGiven, Bool.or_eq_true, List.any_eq_true, decide_eq_true_eq]
  constructor
  · rintro (((⟨a, ha, hname⟩ | hskip) | hparent) | hnull)
    · refine ⟨a, ha, ?_⟩
      cases a with
      | rename literal => exact hname
      | skip | parent | null => rfl
    · exact ⟨_, hskip, rfl⟩
    · exact ⟨_, hparent, rfl⟩
    · exact ⟨_, hnull, rfl⟩
  · rintro ⟨a, ha, hkept⟩
    cases a with
    | rename literal => exact .inl (.inl (.inl ⟨_, ha, hkept⟩))
    | skip => exact .inl (.inl (.inr ha))
    | parent => exact .inl (.inr ha)
    | null => exact .inr ha

end Traits

namespace Row

theorem typeOf_of_not_admits {form : Form} {rest : List Tree} (h : form.admits rest = false) :
    typeOf form rest = .error form.misshapen := by
  fun_cases typeOf form rest <;> simp_all [Form.admits, Form.misshapen]

theorem exists_typeOf_of_admits {form : Form} {rest : List Tree} (h : form.admits rest) :
    ∃ type, typeOf form rest = .ok type := by
  fun_cases typeOf form rest <;> simp_all [Form.admits]

/-- The arguments that do not belong on a member, from all that have been given. -/
theorem misuses_ofGiven (form : Form) (taken : Bool) (index : Nat) (name : String)
    (arguments : List Argument) (doc : List String) (type : List Tree) :
    misuses form taken ⟨index, name, .ofGiven arguments doc, type⟩ =
      Complaint.ofUse form taken arguments := by
  have hrename := Traits.isSome_rename_ofGiven arguments doc
  cases form <;> simp [misuses, Complaint.ofUse, hrename] <;> simp [Traits.ofGiven]

theorem isSingle_ofGiven (form : Form) (index : Nat) (name : String)
    (arguments : List Argument) (doc : List String) (type : List Tree) :
    isSingle form ⟨index, name, .ofGiven arguments doc, type⟩ =
      decide (form.singling ∈ arguments) := by
  cases form <;> rfl

/-- What reading one member adds to what is read from the members behind it. -/
theorem readAll_cons (form : Form) (taken : Bool) (index : Nat) (member : List Tree)
    (rest : List (List Tree)) :
    (readAll form taken index (member :: rest)).2 =
      Complaint.ofMember form taken member ++
        (readAll form (taken || form.singles member) (index + 1) rest).2 := by
  rw [readAll, read, Complaint.ofMember, Form.singles]
  cases Item.read? member with
  | none => simp
  | some item =>
    cases hadmits : form.admits item.rest with
    | false => simp [typeOf_of_not_admits hadmits, hadmits]
    | true =>
      obtain ⟨type, htype⟩ := exists_typeOf_of_admits hadmits
      simp [htype, hadmits, Traits.ofAttributes_eq, misuses_ofGiven, isSingle_ofGiven]

/-- All complaints about members. Whether a member has been singled out before is told from the
members before it. -/
theorem readAll_eq (form : Form) (index : Nat) (members : List (List Tree)) :
    (readAll form false index members).2 = Complaint.ofMembers form members := by
  suffices h : ∀ taken index, (readAll form taken index members).2 =
      members.zipIdx.flatMap fun (member, i) =>
        Complaint.ofMember form (taken || (members.take i).any form.singles) member by
    rw [h, Complaint.ofMembers]
    simp
  clear index
  induction members with
  | nil => intros; rfl
  | cons member rest ih =>
    intro taken index
    rw [readAll_cons, ih, List.zipIdx_cons, List.flatMap_cons]
    simp [List.zipIdx_succ, List.flatMap_map, Bool.or_assoc]

end Row

/-! ## The whole report -/

namespace Declaration

/-- The table of a declaration about which there is nothing to report: what is known of the type,
and what is read from the members of its body. -/
def tableOf (d : Declaration) (body : List Tree) : Table where
  form := d.form
  ident := d.item.name
  doc := d.item.attributes.filterMap Traits.lineOf?
  rows := (Row.readAll d.form false 0 (Body.members body)).1

/-- A declaration has its table exactly when there is nothing to report. -/
theorem table_eq (d : Declaration) :
    (d.report = [] → ∃ body, d.body = .ok body ∧ d.table = .ok (d.tableOf body)) ∧
    (d.report ≠ [] → d.table = .error d.report) := by
  unfold table report
  cases hbody : d.body with
  | error c => simp
  | ok body =>
    simp only [Traits.ofAttributes_eq, Traits.hasArgument_ofGiven, Row.readAll_eq]
    rw [← Complaint.ofType]
    cases hreport : Complaint.ofType d.item.attributes ++
      Complaint.ofMembers d.form (Body.members body) with
    | nil => exact ⟨fun _ => ⟨body, rfl, rfl⟩, fun h => absurd rfl h⟩
    | cons c more => exact ⟨fun h => absurd h (List.cons_ne_nil _ _), fun _ => rfl⟩

/-- A declared type gets its code exactly when there is nothing to report about its declaration. It
implements the layout of the declared type, with what is read from its members. Otherwise all that
there is to report is reported, in order. -/
theorem expand_reports {trees : List Tree} {d : Declaration}
    (h : read? (Tree.sequenceUnsigned trees) = some d) :
    (d.report = [] → ∃ body code, d.body = .ok body ∧ expand trees = .ok code ∧
      code = Expansion.ofTable (d.tableOf body) ∧
      Expansion.Implements ["fieldmap", "Keyed"] (.ident d.item.name) code) ∧
    (d.report ≠ [] → expand trees = .error d.report) := by
  simp only [expand, h]
  refine ⟨fun hnil => ?_, fun hne => ?_⟩
  · obtain ⟨body, hbody, htable⟩ := d.table_eq.1 hnil
    exact ⟨body, _, hbody, by rw [htable]; rfl, rfl, Expansion.implements_ofTable _⟩
  · rw [d.table_eq.2 hne]
    rfl

/-- A record in which much is wrong: arguments stand on the type, one member is a number, one has no
type, and two are marked as the base, the first of them with a new name. -/
def muddle : List Tree :=
  [.punct '#' false, .group .bracket [.ident "keyed", .group .paren [.ident "skip"]],
    .ident "struct", .ident "Muddle", .group .brace [
      .literal "42", .punct ',' false,
      .punct '#' false, .group .bracket [.ident "keyed", .group .paren [
        .ident "parent", .punct ',' false, .ident "rename", .punct '=' false, .literal "\"b\""]],
      .ident "base", .punct ':' false, .ident "Base", .punct ',' false,
      .punct '#' false, .group .bracket [.ident "keyed", .group .paren [.ident "parent"]],
      .ident "other", .punct ':' false, .ident "Base", .punct ',' false,
      .ident "untyped"]]

/-- A record with two fields, about which there is nothing to report. -/
def tidy : List Tree :=
  [.ident "struct", .ident "Tidy", .group .brace [
    .punct '#' false, .group .bracket [.ident "keyed", .group .paren [.ident "parent"]],
    .ident "base", .punct ':' false, .ident "Base", .punct ',' false,
    .ident "count", .punct ':' false, .ident "u32"]]

theorem expand_reports_muddle :
    expand muddle =
      .error [.argumentsOnType, .notAMember, .namedParent, .secondParent, .notTyped] ∧
    ∃ code, expand tidy = .ok code ∧
      Expansion.Implements ["fieldmap", "Keyed"] (.ident "Tidy") code := by
  have hmuddle : read? (Tree.sequenceUnsigned muddle) = some _ := rfl
  have htidy : read? (Tree.sequenceUnsigned tidy) = some _ := rfl
  obtain ⟨-, code, -, hcode, -, himplements⟩ := (expand_reports htidy).1 rfl
  exact ⟨(expand_reports hmuddle).2 (by decide), code, hcode, himplements⟩

end Declaration

end RecordKeys
