import Mathlib.Data.List.Dedup
import Mathlib.Data.String.Basic
import RecordAccess.Access.Decision
import RecordAccess.Proofs.NormalForms

/-!
# The forms of a role set

Roles come as an array, or as a text that holds one, and a value or a text may be what they are decoded
from. What lists some roles says `Document.Lists`, without saying how it is read. All that lists the same
roles, in any order and any number of times, is decoded as one set (`RoleSet.decode_of_lists`,
`RoleSet.ofList_congr`), which is also the one that is built of such a list at once
(`RoleSet.collect_eq_ofList`).

A permission and a principal are objects. They are decoded from their members in any order and with others
between them (`Decoder.struct_pair`), so a verdict comes down to the roles that are asked for and those that
are held (`RoleSet.forms_agree`).
-/

namespace RecordAccess

/-! ## Blank texts -/

theorem Numeral.take?_of_isBlank {c : Char} (blank : Text.isBlank c = true) (rest : List Char) :
    take? (c :: rest) = none := by
  have notMinus : c ≠ '-' := by
    rintro rfl
    revert blank
    decide
  have notDigit : c.isDigit = false := by
    by_contra decimal
    rw [Text.isBlank_of_isDigit (by simpa using decimal)] at blank
    cases blank
  have unsigned : takeMinus (c :: rest) = (false, c :: rest) := by
    unfold takeMinus
    split
    · next same => exact absurd (List.cons.inj same).1 notMinus
    · rfl
  have empty : takeDigits? (c :: rest) = none := by
    rw [takeDigits?, List.takeWhile_cons_of_neg (by simp [notDigit])]
  rw [take?, unsigned]
  simp only [takeWhole?, empty]
  rfl

namespace Json.Token

theorem take?_of_isBlank {c : Char} (blank : Text.isBlank c = true) (rest : List Char) :
    take? (c :: rest) = none := by
  unfold take?
  split
  case h_11 =>
    rw [Numeral.take?_of_isBlank blank]
    rfl
  all_goals
    next same =>
    rw [(List.cons.inj same).1] at blank
    exact absurd blank (by decide)

theorem sequence_nil : sequence [] = [] := by
  rw [sequence]

/-- White space before a token is passed over. -/
theorem sequence_of_isSpace {c : Char} (space : isSpace c = true) (rest : List Char) :
    sequence (c :: rest) = sequence rest := by
  rw [sequence, if_pos space]

/-- A text of blanks has no token, or only what is none. -/
theorem sequence_of_isBlank {cs : List Char} (blank : ∀ c ∈ cs, Text.isBlank c = true) :
    sequence cs = [] ∨ sequence cs = [invalid] := by
  induction cs with
  | nil => exact .inl sequence_nil
  | cons c rest ih =>
    by_cases space : isSpace c = true
    · rw [sequence_of_isSpace space]
      exact ih fun other member => blank other (List.mem_cons_of_mem _ member)
    · rw [sequence, if_neg space]
      refine .inr ?_
      split
      · rfl
      · next found =>
        rw [take?_of_isBlank (blank c (List.mem_cons_self ..))] at found
        cases found

end Json.Token

/-- A text of blanks holds no document. -/
theorem Document.isWhole_read_of_isAllBlank {body : String} (blank : Text.isAllBlank body = true) :
    (Document.read body).isWhole = false := by
  rcases Json.Token.sequence_of_isBlank (List.all_eq_true.1 blank) with none | invalid
  · rw [read, none]
    rfl
  · rw [read, invalid]
    rfl

/-! ## Listed roles -/

namespace Json

theorem isDistinct_strings (texts : List String) : (strings texts).IsDistinct := by
  rw [strings, IsDistinct]
  induction texts with
  | nil => trivial
  | cons first rest ih => exact ⟨trivial, ih⟩

theorem isLegible_strings (texts : List String) : (strings texts).IsLegible where
  integers n among := by simp [numbers_strings] at among
  nested := by simp [nesting_strings, Document.depthLimit]

/-- The text of an array of texts is read as that array. -/
theorem read_text_strings (texts : List String) :
    Document.read (strings texts).text = ⟨(strings texts).toDocument, true⟩ := by
  rw [Document.read_text, (isLegible_strings texts).readIn_zero]

end Json

/-- A document lists roles: it is the array of them, or a text that holds this array, laid out in any way.
A blank text lists none. -/
inductive Document.Lists : List String → Document → Prop
  | array (roles : List String) : Lists roles (Json.strings roles).toDocument
  | encoded {roles : List String} {body : String}
      (read : Document.read body = ⟨(Json.strings roles).toDocument, true⟩) :
      Lists roles (.string body)
  | blank {body : String} (blank : Text.isAllBlank body = true) : Lists [] (.string body)

namespace RoleSet

variable {roles listing : List String} {document : Document} {body : String}

theorem ascending_dedup_mergeSort (roles : List String) :
    (roles.mergeSort (· ≤ ·)).dedup.Pairwise (· < ·) := by
  have transitive : ∀ a b c : String, decide (a ≤ b) → decide (b ≤ c) → decide (a ≤ c) := by
    intro a b c below above
    exact decide_eq_true (String.le_trans (of_decide_eq_true below) (of_decide_eq_true above))
  have total : ∀ a b : String, (decide (a ≤ b) || decide (b ≤ a)) = true := by
    intro a b
    simpa using String.le_total a b
  have sorted := (List.pairwise_mergeSort transitive total roles).imp of_decide_eq_true
  exact (sorted.sublist (List.dedup_sublist _)).imp₂ (fun _ _ => lt_of_le_of_ne) (List.nodup_dedup _)

/-- The set that is built of a list at once: the roles are sorted, and repetitions left out. -/
def collect (roles : List String) : RoleSet :=
  ⟨(roles.mergeSort (· ≤ ·)).dedup, ascending_dedup_mergeSort roles⟩

/-- A set is the same, whether it is built at once or its roles are inserted one by one. -/
theorem collect_eq_ofList (roles : List String) : collect roles = ofList roles := by
  refine ext fun role => ?_
  rw [mem_ofList]
  exact List.mem_dedup.trans List.mem_mergeSort

/-- Neither the order of a list nor repetitions in it make a difference to its set. -/
theorem ofList_congr (same : ∀ role, role ∈ listing ↔ role ∈ roles) : ofList listing = ofList roles :=
  ext fun role => by rw [mem_ofList, mem_ofList, same]

theorem ofText_of_read (read : Document.read body = ⟨(Json.strings roles).toDocument, true⟩) :
    ofText body = .ok (ofList roles) := by
  have visible : Text.isAllBlank body ≠ true := by
    intro blank
    have whole := Document.isWhole_read_of_isAllBlank blank
    rw [read] at whole
    cases whole
  rw [ofText, if_neg visible, Decoder.ofText, read]
  simp only [Decoder.list_text_strings]
  rfl

/-- A document that lists roles is decoded as the set of them. -/
theorem decode_of_lists (lists : document.Lists roles) : decode document = .ok (ofList roles) := by
  cases lists with
  | array =>
    have given : Decoder.json (Json.strings roles).toDocument = .ok (.strings roles) :=
      Decoder.json_eq_ok.2 (Json.toJson?_toDocument (Json.isDistinct_strings roles))
    have found := rolesOf?_strings roles
    rw [Json.strings] at given found ⊢
    simp only [decode, given, bind, Except.bind, found]
  | encoded read => exact ofText_of_read read
  | blank blank => exact if_pos blank

end RoleSet

/-! ## Objects with two fields -/

/-- What the members of an object say of a field. There is at most one of its name, and it decodes to the
value of the field; without one the field has its default. -/
structure Document.Gives {β : Type} (members : List Document.Member) (name : String)
    (decode : Decoder β) (default? : Option β) (value : β) : Prop where
  once : (members.map Prod.fst).count (some name) ≤ 1
  decoded : ∀ document, (some name, document) ∈ members → decode document = .ok value
  absent : (∀ document, (some name, document) ∉ members) → default? = some value

namespace Document

variable {β : Type} {members : List Member} {name key : String} {document : Document}
  {decode : Decoder β} {default? : Option β} {value current : β} {seen : List String}

/-- Where a field stands after some names have been seen and before the members that are left: once its
own name is among those seen it has its value, and before that its default, if there is one. -/
structure Awaits (seen : List String) (members : List Member) (name : String) (decode : Decoder β)
    (default? : Option β) (value current : β) : Prop where
  after : name ∈ seen → current = value ∧ ∀ document, (some name, document) ∉ members
  before : name ∉ seen → Gives members name decode default? value ∧
    ∀ default, default? = some default → current = default

/-- The member of a field is read, and it was the only one. -/
theorem Awaits.own
    (awaits : Awaits seen ((some name, document) :: members) name decode default? value current) :
    name ∉ seen ∧ decode document = .ok value ∧
      Awaits (name :: seen) members name decode default? value value := by
  have fresh : name ∉ seen := fun known => (awaits.after known).2 document (List.mem_cons_self ..)
  obtain ⟨gives, -⟩ := awaits.before fresh
  refine ⟨fresh, gives.decoded document (List.mem_cons_self ..), fun _ => ⟨rfl, fun other again => ?_⟩,
    fun unseen => absurd (List.mem_cons_self ..) unseen⟩
  have once := gives.once
  have present : 0 < (members.map Prod.fst).count (some name) :=
    List.count_pos_iff.2 (List.mem_map_of_mem again)
  rw [List.map_cons, List.count_cons_self] at once
  omega

/-- A member of another name does not matter to a field. -/
theorem Gives.skip (different : key ≠ name)
    (gives : Gives ((some key, document) :: members) name decode default? value) :
    Gives members name decode default? value where
  once := Nat.le_trans (List.count_le_count_cons ..) gives.once
  decoded other member := gives.decoded other (List.mem_cons_of_mem _ member)
  absent none := gives.absent fun other member => by
    rcases List.mem_cons.1 member with same | later
    · exact different (Option.some.inj (Prod.mk.inj same).1).symm
    · exact none other later

theorem Awaits.skip (different : key ≠ name)
    (awaits : Awaits seen ((some key, document) :: members) name decode default? value current) :
    Awaits seen members name decode default? value current where
  after known := (awaits.after known).imp_right fun none other member =>
    none other (List.mem_cons_of_mem _ member)
  before fresh := (awaits.before fresh).imp_left (Gives.skip different)

/-- Nor does it matter that the other name has been seen. -/
theorem Awaits.see (different : key ≠ name)
    (awaits : Awaits seen members name decode default? value current) :
    Awaits (key :: seen) members name decode default? value current where
  after known := awaits.after ((List.mem_cons.1 known).resolve_left different.symm)
  before fresh := awaits.before fun known => fresh (List.mem_cons_of_mem _ known)

theorem Awaits.done (awaits : Awaits seen [] name decode default? value current) :
    current = value ∧ (default? = none → name ∈ seen) := by
  by_cases known : name ∈ seen
  · exact ⟨(awaits.after known).1, fun _ => known⟩
  · obtain ⟨gives, default⟩ := awaits.before known
    have given := gives.absent fun _ => List.not_mem_nil
    refine ⟨default value given, fun none => ?_⟩
    rw [none] at given
    cases given

/-- At the beginning a field that need not be there has its default. -/
theorem Gives.awaits {needed : Bool}
    (gives : Gives members name decode (if needed then none else some current) value) :
    Awaits [] members name decode (if needed then none else some current) value current where
  after known := absurd known List.not_mem_nil
  before _ := by
    refine ⟨gives, fun default same => ?_⟩
    cases needed with
    | true => cases same
    | false => exact Option.some.inj same

end Document

namespace Decoder

open Document (Gives Awaits Member)

variable {α β γ : Type} {first second : Field α} {decodeFirst : Decoder β} {decodeSecond : Decoder γ}
  {members : List Member} {one current : β} {two other : γ}
  {firstDefault? : Option β} {secondDefault? : Option γ} {seen : List String}

/-- Two fields are read from members in any order, with any others between them. -/
theorem readMembers_pair {make : β → γ → α} (different : first.name ≠ second.name)
    (readFirst : ∀ one two document,
      first.read (make one two) document = (decodeFirst document).map fun one => make one two)
    (readSecond : ∀ one two document,
      second.read (make one two) document = (decodeSecond document).map fun two => make one two)
    (named : ∀ member ∈ members, member.1 ≠ none)
    (awaitsFirst : Awaits seen members first.name decodeFirst firstDefault? one current)
    (awaitsSecond : Awaits seen members second.name decodeSecond secondDefault? two other) :
    ∃ found, readMembers [first, second] (fun value _ _ => .ok value) (make current other) seen members =
        .ok (make one two, found) ∧
      (firstDefault? = none → first.name ∈ found) ∧ (secondDefault? = none → second.name ∈ found) := by
  induction members generalizing seen current other with
  | nil =>
    obtain ⟨rfl, firstFound⟩ := awaitsFirst.done
    obtain ⟨rfl, secondFound⟩ := awaitsSecond.done
    exact ⟨seen, rfl, firstFound, secondFound⟩
  | cons member rest ih =>
    obtain ⟨namedHere, namedLater⟩ := List.forall_mem_cons.1 named
    obtain ⟨_ | key, document⟩ := member
    · exact absurd rfl namedHere
    · by_cases isFirst : first.name = key
      · subst isFirst
        obtain ⟨fresh, decoded, after⟩ := awaitsFirst.own
        have found : [first, second].find? (fun field => field.name = first.name) = some first := by simp
        rw [readMembers_field found (by simpa using fresh), readFirst, decoded]
        exact ih namedLater after ((awaitsSecond.skip different).see different)
      · by_cases isSecond : second.name = key
        · subst isSecond
          obtain ⟨fresh, decoded, after⟩ := awaitsSecond.own
          have found : [first, second].find? (fun field => field.name = second.name) = some second := by
            simp [different]
          rw [readMembers_field found (by simpa using fresh), readSecond, decoded]
          exact ih namedLater ((awaitsFirst.skip different.symm).see different.symm) after
        · rw [readMembers_other (by simp [isFirst, isSecond])]
          exact ih namedLater (awaitsFirst.skip (Ne.symm isFirst)) (awaitsSecond.skip (Ne.symm isSecond))

/-- A structure of two fields is decoded from an object that gives both, where a field that need not be
there may be left out. -/
theorem struct_pair (make : β → γ → α) (different : first.name ≠ second.name)
    (readFirst : ∀ one two document,
      first.read (make one two) document = (decodeFirst document).map fun one => make one two)
    (readSecond : ∀ one two document,
      second.read (make one two) document = (decodeSecond document).map fun two => make one two)
    (named : ∀ member ∈ members, member.1 ≠ none)
    (givesFirst : Gives members first.name decodeFirst
      (if first.isNeededMember then none else some current) one)
    (givesSecond : Gives members second.name decodeSecond
      (if second.isNeededMember then none else some other) two) (name : String) :
    struct name [first, second] (make current other) (.object members) = .ok (make one two) := by
  obtain ⟨found, read, firstFound, secondFound⟩ :=
    readMembers_pair different readFirst readSecond named givesFirst.awaits givesSecond.awaits
  have complete : [first, second].find? (fun field => field.isNeededMember && !found.contains field.name) =
      none := by
    have firstDone : first.isNeededMember = true → first.name ∈ found := fun needed =>
      firstFound (if_pos needed)
    have secondDone : second.isNeededMember = true → second.name ∈ found := fun needed =>
      secondFound (if_pos needed)
    simpa using ⟨firstDone, secondDone⟩
  rw [struct, read]
  simp only [bind, Except.bind, complete]

end Decoder

/-! ## Permissions and principals -/

namespace Document

variable {document : Document} {asked : Access → List String} {held : List String}

/-- The members of an object list some roles under a name, in any order and any number of times. There is
at most one member of the name; without one there are no roles. -/
structure ListsUnder (members : List Member) (name : String) (roles : List String) : Prop where
  once : (members.map Prod.fst).count (some name) ≤ 1
  listed : ∀ document, (some name, document) ∈ members →
    ∃ listing, document.Lists listing ∧ ∀ role, role ∈ listing ↔ role ∈ roles
  absent : (∀ document, (some name, document) ∉ members) → roles = []

/-- A document is an object that lists the roles which each access asks for. -/
def IsPermission (document : Document) (asked : Access → List String) : Prop :=
  ∃ members, document = .object members ∧ (∀ member ∈ members, member.1 ≠ none) ∧
    ∀ access : Access, ListsUnder members access.name (asked access)

/-- A document is an object that has an id and lists the roles which its bearer holds. -/
def IsPrincipal (document : Document) (held : List String) : Prop :=
  ∃ members id, document = .object members ∧ (∀ member ∈ members, member.1 ≠ none) ∧
    Gives members "id" Decoder.text none id ∧ ListsUnder members "roles" held

theorem ListsUnder.gives {members : List Member} {name : String} {roles : List String}
    (lists : ListsUnder members name roles) :
    Gives members name RoleSet.decode (some .empty) (RoleSet.ofList roles) where
  once := lists.once
  decoded document member := by
    obtain ⟨listing, found, same⟩ := lists.listed document member
    rw [RoleSet.decode_of_lists found, RoleSet.ofList_congr same]
  absent none := by
    rw [lists.absent none]
    rfl

theorem IsPermission.decode (states : document.IsPermission asked) :
    Permission.decode document = .ok ⟨.ofList (asked .read), .ofList (asked .write)⟩ := by
  obtain ⟨members, rfl, named, lists⟩ := states
  exact Decoder.struct_pair Permission.mk (by decide) (fun _ _ _ => rfl) (fun _ _ _ => rfl)
    named (lists .read).gives (lists .write).gives "Permission"

theorem IsPrincipal.decode (states : document.IsPrincipal held) :
    ∃ id, Principal.decode document = .ok ⟨id, .ofList held⟩ := by
  obtain ⟨members, id, rfl, named, gives, lists⟩ := states
  exact ⟨id, Decoder.struct_pair Principal.mk (by decide) (fun _ _ _ => rfl) (fun _ _ _ => rfl)
    named gives lists.gives "Principal"⟩

end Document

namespace RoleSet

theorem isEmpty_ofList {roles : List String} : (ofList roles).isEmpty = true ↔ roles = [] := by
  rw [isEmpty, List.isEmpty_iff, List.eq_nil_iff_forall_not_mem, List.eq_nil_iff_forall_not_mem]
  exact forall_congr' fun role => not_congr mem_ofList

theorem intersects_ofList {roles others : List String} :
    (ofList roles).intersects (ofList others) = true ↔ ∃ role ∈ roles, role ∈ others := by
  rw [intersects_iff]
  simp only [mem_ofList]

theorem intersects_comm (a b : RoleSet) : a.intersects b = b.intersects a := by
  rw [Bool.eq_iff_iff, intersects_iff, intersects_iff]
  exact exists_congr fun _ => And.comm

end RoleSet

/-- What is asked for and what is held decide, and nothing else does. -/
theorem canPerform_ofList (asked : Access → List String) (held : List String) (id : String)
    (access : Access) :
    canPerform (some ⟨.ofList (asked .read), .ofList (asked .write)⟩) (some ⟨id, .ofList held⟩) access =
      if asked access = [] ∨ ∃ role ∈ asked access, role ∈ held then .ok ()
      else .error .permissionDenied := by
  have required : Permission.required ⟨.ofList (asked .read), .ofList (asked .write)⟩ access =
      .ofList (asked access) := by
    cases access <;> rfl
  have roles : rolesOf (some ⟨id, .ofList held⟩) = .ofList held := rfl
  simp only [canPerform, required, roles, RoleSet.isEmpty_ofList, RoleSet.intersects_ofList]
  by_cases free : asked access = []
  · rw [if_pos free, if_pos (.inl free)]
  · simp only [free, if_false, false_or]

/-! ## All forms -/

namespace Written

/-- Nothing follows what is decoded. -/
def IsWhole : Written → Prop
  | value _ => True
  | text body => (Document.read body).isWhole = true

/-- What is whole decodes to what its document decodes to. -/
theorem decode_of_isWhole {α : Type} {written : Written} {decoder : Decoder α} {made : α}
    (whole : written.IsWhole) (decoded : decoder written.document = .ok made) :
    written.decode decoder = .ok made := by
  cases written with
  | value json => exact decoded
  | text body =>
    rw [document] at decoded
    rw [IsWhole] at whole
    simp only [decode, Decoder.ofText, decoded, whole, if_true]

end Written

namespace RoleSet

/-- The ways to write a list of roles: as an array and as the text of one, and either of these as a text
inside a value. -/
def forms (roles : List String) : List Written :=
  let array := Json.strings roles
  [.value array, .text array.text, .value (.string array.text), .text (Json.string array.text).text]

theorem lists_of_mem_forms {roles : List String} {written : Written} (among : written ∈ forms roles) :
    written.IsWhole ∧ written.document.Lists roles := by
  have read := Json.read_text_strings roles
  simp only [forms, List.mem_cons, List.not_mem_nil, or_false] at among
  rcases among with rfl | rfl | rfl | rfl
  · exact ⟨trivial, .array roles⟩
  · rw [Written.IsWhole, Written.document, read]
    exact ⟨rfl, .array roles⟩
  · exact ⟨trivial, .encoded read⟩
  · rw [Written.IsWhole, Written.document, Document.read_text]
    exact ⟨rfl, .encoded read⟩

/-- Lists with the same roles make one set, whether they are collected, inserted one by one or decoded
from any form, laid out in any way. It is written as the ascending list of its roles, which is one of the
lists that make it. Two sets intersect, in either order, when a role is in both. So what a caller may do
depends on the roles that are asked for and on those that it holds, and not on the forms in which its
roles and the permission were stored. -/
theorem forms_agree (roles : List String) :
    (∀ listing : List String, (∀ role, role ∈ listing ↔ role ∈ roles) →
        collect listing = ofList roles ∧ listing.foldl insert empty = ofList roles ∧
          (∀ written ∈ forms listing, written.decode decode = .ok (ofList roles)) ∧
          ∀ written : Written, written.IsWhole → written.document.Lists listing →
            written.decode decode = .ok (ofList roles)) ∧
      (∃ ascending, (ofList roles).toJson = .strings ascending ∧ ascending.Pairwise (· < ·) ∧
        (∀ role, role ∈ ascending ↔ role ∈ roles) ∧
        ∀ written ∈ forms ascending, written.decode decode = .ok (ofList roles)) ∧
      (∀ a b : RoleSet, a.intersects b = b.intersects a ∧
        (a.intersects b = true ↔ ∃ role, role ∈ a ∧ role ∈ b)) ∧
      ∀ (asked : Access → List String) (held : List String) (permission identity : Document),
        permission.IsPermission asked → identity.IsPrincipal held →
          ∃ granted caller, Permission.decode permission = .ok granted ∧
            Principal.decode identity = .ok caller ∧ ∀ access,
              canPerform (some granted) (some caller) access =
                if asked access = [] ∨ ∃ role ∈ asked access, role ∈ held then .ok ()
                else .error .permissionDenied := by
  have decoded : ∀ {listing : List String}, (∀ role, role ∈ listing ↔ role ∈ roles) →
      ∀ {written : Written}, written.IsWhole → written.document.Lists listing →
        written.decode decode = .ok (ofList roles) := by
    intro listing same written whole lists
    rw [Written.decode_of_isWhole whole (decode_of_lists lists), ofList_congr same]
  refine ⟨fun listing same => ⟨?_, ofList_congr same, fun written among => ?_, fun written => decoded same⟩,
    ⟨_, rfl, (ofList roles).ascending, fun _ => mem_ofList, fun written among => ?_⟩,
    fun a b => ⟨intersects_comm a b, intersects_iff⟩, ?_⟩
  · rw [collect_eq_ofList, ofList_congr same]
  · exact decoded same (lists_of_mem_forms among).1 (lists_of_mem_forms among).2
  · exact decoded (fun _ => mem_ofList) (lists_of_mem_forms among).1 (lists_of_mem_forms among).2
  · intro asked held permission identity states bears
    obtain ⟨id, caller⟩ := bears.decode
    exact ⟨_, _, states.decode, caller, canPerform_ofList asked held id⟩

/-- A text that lists two roles, with blanks before and between them. -/
def officeText : String := " [\"ceo\" ,\"admin\"]"

theorem lists_officeText : Document.Lists ["ceo", "admin"] (.string officeText) := by
  open Json.Token in
  have spaced : officeText.toList = ' ' :: (openArray.chars ++ ((string (some "ceo")).chars ++
      ' ' :: (comma.chars ++ ((string (some "admin")).chars ++ (closeArray.chars ++ []))))) := rfl
  have tokens : Json.Token.sequence officeText.toList =
      Json.Token.sequence (Json.strings ["ceo", "admin"]).text.toList := by
    open Json.Token in
    rw [Json.sequence_text, spaced, sequence_of_isSpace rfl, sequence_append rfl, sequence_append rfl,
      sequence_of_isSpace rfl, sequence_append rfl, sequence_append rfl, sequence_append rfl, sequence_nil]
    rfl
  refine .encoded ?_
  rw [Document.read, tokens]
  exact Json.read_text_strings _

/-- A permission that asks for one role to read and for either of two to write, one of its lists being a
text. -/
def officePermission : Document :=
  .object [(some "write", .string officeText), (some "note", .null),
    (some "read", .array [.string "admin", .string "admin"])]

/-- The roles that the permission asks for. -/
def officeRoles : Access → List String
  | .read => ["admin"]
  | .write => ["admin", "ceo"]

/-- A caller that holds one of them, twice, as a text. -/
def officeCaller : Document :=
  .object [(some "roles", .string "[\"ceo\",\"ceo\"]"), (some "id", .string "7")]

theorem isPermission_officePermission : officePermission.IsPermission officeRoles := by
  refine ⟨_, rfl, by decide, fun access => ?_⟩
  cases access with
  | read =>
    refine ⟨by decide, fun document member => ⟨["admin", "admin"], ?_, ?_⟩, fun none => ?_⟩
    · obtain rfl : document = .array [.string "admin", .string "admin"] := by
        simpa [Access.name] using member
      exact .array ["admin", "admin"]
    · simp [officeRoles]
    · exact absurd (by simp [Access.name]) (none (.array [.string "admin", .string "admin"]))
  | write =>
    refine ⟨by decide, fun document member => ⟨["ceo", "admin"], ?_, ?_⟩, fun none => ?_⟩
    · obtain rfl : document = .string officeText := by simpa [Access.name] using member
      exact lists_officeText
    · simp [officeRoles, or_comm]
    · exact absurd (by simp [Access.name]) (none (.string officeText))

theorem isPrincipal_officeCaller : officeCaller.IsPrincipal ["ceo"] := by
  have text : (Json.strings ["ceo", "ceo"]).text = "[\"ceo\",\"ceo\"]" := by decide +kernel
  have read := Json.read_text_strings ["ceo", "ceo"]
  rw [text] at read
  refine ⟨_, "7", rfl, by decide, ⟨by decide, fun document member => ?_, fun none => ?_⟩,
    ⟨by decide, fun document member => ⟨["ceo", "ceo"], ?_, ?_⟩, fun none => ?_⟩⟩
  · obtain rfl : document = .string "7" := by simpa using member
    rfl
  · exact absurd (by simp) (none (.string "7"))
  · obtain rfl : document = .string "[\"ceo\",\"ceo\"]" := by simpa using member
    exact .encoded read
  · simp
  · exact absurd (by simp) (none (.string "[\"ceo\",\"ceo\"]"))

/-- The text is decoded as the set of its roles, and the caller may write and may not read. -/
theorem forms_agree_office : (∀ role, role ∈ ["ceo", "admin"] ↔ role ∈ ["admin", "ceo"]) ∧
    (Written.value (.string officeText)).decode decode = .ok (ofList ["admin", "ceo"]) ∧
    officePermission.IsPermission officeRoles ∧ officeCaller.IsPrincipal ["ceo"] ∧
    ∃ granted caller, Permission.decode officePermission = .ok granted ∧
      Principal.decode officeCaller = .ok caller ∧
      canPerform (some granted) (some caller) .write = .ok () ∧
      canPerform (some granted) (some caller) .read = .error .permissionDenied := by
  have same : ∀ role, role ∈ ["ceo", "admin"] ↔ role ∈ ["admin", "ceo"] := by simp [or_comm]
  obtain ⟨listed, -, -, verdicts⟩ := forms_agree ["admin", "ceo"]
  have decoded := (listed ["ceo", "admin"] same).2.2.2 (.value (.string officeText)) trivial lists_officeText
  obtain ⟨granted, caller, permitted, known, verdict⟩ := verdicts officeRoles ["ceo"]
    officePermission officeCaller isPermission_officePermission isPrincipal_officeCaller
  exact ⟨same, decoded, isPermission_officePermission, isPrincipal_officeCaller, granted, caller, permitted,
    known, verdict .write, verdict .read⟩

end RoleSet

end RecordAccess
