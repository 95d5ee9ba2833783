import LockAudit.Json.Decode
import LockAudit.Json.Schema
import LockAudit.Proofs.Outcomes

/-!
# Where decoders read integers

A schema cannot say how wide an integer may be, and takes an integral double for
an integer.  What it accepts is therefore not always decoded, but the failures
that are left all come from numbers.  Here the places at which a decoder reads
integers are listed as data, and schemas, decoders and places are put together
in step: whatever the schema accepts, decoding fails exactly when a number at
one of the places does not fit.  The parts at the end of a path are a view of the
decoded data when they are so after the first step, for each thing that is
decoded there.
-/

namespace LockAudit.Json

/-- A step from a value to some of its parts. -/
inductive Selector where
  | member (name : String)
  | items
  /-- Stays at an object whose member `op` is one of these. -/
  | tagged (tags : List String)
  deriving DecidableEq, Repr

def Value.tag? (value : Value) : Option String :=
  match value.get? "op" with
  | some (.string tag) => some tag
  | _ => none

theorem Value.tag?_eq_some_iff {value : Value} {tag : String} :
    value.tag? = some tag ↔ value.get? "op" = some (.string tag) := by
  rw [Value.tag?]
  split
  · next held => simp [held]
  · next other => simpa using other tag

def Selector.parts : Selector → Value → List Value
  | member name, value => (value.get? name).toList
  | items, .array values => values
  | items, _ => []
  | tagged tags, value => if value.tag?.any (· ∈ tags) then [value] else []

/-- The parts of a value to which a path leads. -/
def select : List Selector → Value → List Value
  | [], value => [value]
  | selector :: path, value => (selector.parts value).flatMap (select path)

/-- The number is no integer below `2 ^ width.bits`. -/
def Number.exceeds (width : Width) : Number → Bool
  | integer value => Nat.pow 2 width.bits ≤ value
  | double _ => true

/-- A path to values that are read as integers of a width. -/
structure IntegerPlace where
  path : List Selector
  width : Width
  deriving DecidableEq, Repr

abbrev IntegerPlaces := List IntegerPlace

namespace IntegerPlaces

/-- The value itself. -/
def here (width : Width) : IntegerPlaces :=
  [⟨[], width⟩]

/-- The places in the parts that a selector leads to. -/
def inParts (selector : Selector) (places : IntegerPlaces) : IntegerPlaces :=
  places.map fun place => ⟨selector :: place.path, place.width⟩

def inMember (name : String) : IntegerPlaces → IntegerPlaces :=
  inParts (.member name)

def inItems : IntegerPlaces → IntegerPlaces :=
  inParts .items

def whenTagged (tags : List String) : IntegerPlaces → IntegerPlaces :=
  inParts (.tagged tags)

@[simp] theorem inMember_nil (name : String) : inMember name [] = [] :=
  rfl

@[simp] theorem inItems_nil : inItems [] = [] :=
  rfl

/-- The numbers at the places, with the widths that are expected there. -/
def numbers (places : IntegerPlaces) (value : Value) : List (Width × Number) :=
  places.flatMap fun place =>
    (select place.path value).filterMap fun
      | .number number => some (place.width, number)
      | _ => none

/-- Some number at one of the places does not fit. -/
def Misfit (places : IntegerPlaces) (value : Value) : Prop :=
  ∃ entry ∈ places.numbers value, entry.2.exceeds entry.1 = true

variable {places : IntegerPlaces} {value : Value}

@[simp] theorem not_misfit_nil : ¬Misfit [] value := by
  simp [Misfit, numbers]

@[simp] theorem misfit_append {left right : IntegerPlaces} :
    Misfit (left ++ right) value ↔ Misfit left value ∨ Misfit right value := by
  simp [Misfit, numbers, or_and_right, exists_or]

theorem misfit_here_iff {width : Width} :
    Misfit (here width) value ↔
      ∃ number, value = .number number ∧ number.exceeds width = true := by
  cases value <;> simp [Misfit, numbers, here, select]

theorem misfit_inParts_iff {selector : Selector} :
    Misfit (inParts selector places) value ↔
      ∃ part ∈ selector.parts value, Misfit places part := by
  simp only [Misfit, numbers, inParts, List.flatMap_map, List.mem_flatMap,
    select, List.filterMap_flatMap]
  constructor
  · intro misfit
    obtain ⟨entry, ⟨place, listed, part, partOf, number⟩, wide⟩ := misfit
    exact ⟨part, partOf, entry, ⟨place, listed, number⟩, wide⟩
  · intro misfit
    obtain ⟨part, partOf, entry, ⟨place, listed, number⟩, wide⟩ := misfit
    exact ⟨entry, ⟨place, listed, part, partOf, number⟩, wide⟩

theorem misfit_inMember_iff {name : String} :
    Misfit (inMember name places) value ↔
      ∃ held, value.get? name = some held ∧ Misfit places held := by
  simp [inMember, misfit_inParts_iff, Selector.parts]

theorem misfit_inItems_iff {values : List Value} :
    Misfit (inItems places) (.array values) ↔
      ∃ item ∈ values, Misfit places item := by
  rw [inItems, misfit_inParts_iff, Selector.parts]

theorem not_misfit_inItems_null : ¬Misfit (inItems places) .null := by
  simp [inItems, misfit_inParts_iff, Selector.parts]

theorem misfit_whenTagged_iff {tags : List String} {tag : String}
    (tagged : value.tag? = some tag) :
    Misfit (whenTagged tags places) value ↔
      tag ∈ tags ∧ Misfit places value := by
  by_cases listed : tag ∈ tags
  · simp [whenTagged, misfit_inParts_iff, Selector.parts, tagged, listed]
  · simp [whenTagged, misfit_inParts_iff, Selector.parts, tagged, listed]

end IntegerPlaces

namespace Schema

variable {schema : Schema} {value : Value} {name : String}

@[simp] theorem all_nil : all [] value = [] :=
  rfl

@[simp] theorem all_cons_eq_nil_iff {constraints : List Schema} :
    all (schema :: constraints) value = [] ↔
      schema value = [] ∧ all constraints value = [] := by
  simp [all]

theorem ofKind_eq_nil_iff {kinds : List Kind} :
    ofKind kinds value = [] ↔ ∃ kind ∈ kinds, value.hasKind kind = true := by
  simp [ofKind]

theorem ofKind_object_iff :
    ofKind [.object] value = [] ↔ ∃ members, value = .object members := by
  cases value <;> simp [ofKind_eq_nil_iff, Value.hasKind]

theorem ofKind_string_iff :
    ofKind [.string] value = [] ↔ ∃ text, value = .string text := by
  cases value <;> simp [ofKind_eq_nil_iff, Value.hasKind]

theorem ofKind_array_iff :
    ofKind [.array] value = [] ↔ ∃ values, value = .array values := by
  cases value <;> simp [ofKind_eq_nil_iff, Value.hasKind]

theorem ofKind_boolean_iff :
    ofKind [.boolean] value = [] ↔ ∃ flag, value = .bool flag := by
  cases value <;> simp [ofKind_eq_nil_iff, Value.hasKind]

theorem ofKind_integer_iff :
    ofKind [.integer] value = [] ↔
      ∃ number, value = .number number ∧ number.isIntegral = true := by
  cases value <;> simp [ofKind_eq_nil_iff, Value.hasKind]

theorem listed_eq_nil_iff {options : List String} :
    listed options value = [] ↔ ∃ text ∈ options, value = .string text := by
  cases value with
  | string text =>
      by_cases member : text ∈ options
      · simp [listed, member]
      · simp [listed, member]
  | _ => simp [listed]

theorem property_eq_nil_iff :
    property name schema value = [] ↔
      ∀ held, value.get? name = some held → schema held = [] := by
  rw [property]
  cases value.get? name with
  | none => simp
  | some held => simp

theorem items_eq_nil_iff {values : List Value} :
    items schema (.array values) = [] ↔ ∀ item ∈ values, schema item = [] := by
  simp [items]

theorem required_eq_nil_iff {names : List String}
    {members : List (String × Value)} :
    required names (.object members) = [] ↔
      ∀ name ∈ names, ∃ held, (Value.object members).get? name = some held := by
  simp [required, Value.get?, Option.isSome_iff_exists]

theorem exactlyOne_eq_nil_iff {alternatives : List Schema} :
    exactlyOne alternatives value = [] ↔
      alternatives.countP (·.accepts value) = 1 := by
  rw [exactlyOne]
  generalize alternatives.countP (·.accepts value) = count
  rcases count with _ | _ | count
  · simp
  · simp
  · simp

theorem property_of_mem_select {path : List Selector} {part : Value}
    (shaped : property name schema value = [])
    (selected : part ∈ select (.member name :: path) value) :
    ∃ held, schema held = [] ∧ part ∈ select path held := by
  have selected : ∃ held, value.get? name = some held ∧
      part ∈ select path held := by
    simpa [select, Selector.parts] using selected
  obtain ⟨held, present, selected⟩ := selected
  exact ⟨held, property_eq_nil_iff.mp shaped held present, selected⟩

theorem items_of_mem_select {path : List Selector} {part : Value}
    (shaped : items schema value = [])
    (selected : part ∈ select (.items :: path) value) :
    ∃ item, schema item = [] ∧ part ∈ select path item := by
  cases value with
  | array values =>
      obtain ⟨item, member, selected⟩ := List.mem_flatMap.mp selected
      exact ⟨item, items_eq_nil_iff.mp shaped item member, selected⟩
  | _ => simp [select, Selector.parts] at selected

end Schema

/-- The step fails, for whatever reason. -/
def Fails (result : Except ε α) : Prop :=
  ∃ error, result = .error error

section Failing

variable {result : Except ε α}

@[simp] theorem not_fails_ok {value : α} :
    ¬Fails (.ok value : Except ε α) := by
  simp [Fails]

@[simp] theorem fails_error {error : ε} : Fails (.error error : Except ε α) :=
  ⟨error, rfl⟩

theorem fails_mapError_iff {change : ε → δ} :
    Fails (result.mapError change) ↔ Fails result := by
  cases result <;> simp

/-- Two steps, of which the second fails on a condition of its own. -/
theorem fails_bind_iff {next : α → Except ε β} {left right : Prop}
    (first : Fails result ↔ left)
    (second : ∀ value, Fails (next value) ↔ right) :
    Fails (result >>= next) ↔ left ∨ right := by
  rw [← first]
  cases result with
  | error error => simp [bind, Except.bind]
  | ok value => simpa [bind, Except.bind] using second value

theorem fails_bind_pure_iff {change : α → β} :
    Fails (result >>= fun value => pure (change value)) ↔ Fails result := by
  cases result <;> simp [bind, Except.bind, pure, Except.pure]

end Failing

theorem fails_object_iff {members : List (String × Value)} :
    Fails (Decoder.object (.object members)) ↔ False := by
  simp [Decoder.object]

/-- Whatever the schema accepts, decoding fails exactly when a number at one of
the places does not fit. -/
def FailsAt (schema : Schema) (decode : Decoder α)
    (places : IntegerPlaces) : Prop :=
  ∀ value, schema value = [] → (Fails (decode value) ↔ places.Misfit value)

namespace FailsAt

open Decoder IntegerPlaces

variable {schema : Schema} {decode : Decoder α} {places : IntegerPlaces}

theorem fails_under_iff (step : Step) {result : Except DecodeError α} :
    Fails (under step result) ↔ Fails result :=
  fails_mapError_iff

theorem fails_field_iff (failsAt : FailsAt schema decode places)
    {name : String} {value held : Value}
    (shaped : Schema.property name schema value = [])
    (present : value.get? name = some held) :
    Fails (field name decode value) ↔ Misfit (inMember name places) value := by
  have accepted := Schema.property_eq_nil_iff.mp shaped held present
  simp [field, present, fails_under_iff, misfit_inMember_iff,
    failsAt held accepted]

theorem fails_fieldOr_iff (failsAt : FailsAt schema decode places)
    {name : String} {absent : α} {value : Value}
    (shaped : Schema.property name schema value = []) :
    Fails (fieldOr name absent decode value) ↔
      Misfit (inMember name places) value := by
  cases present : value.get? name with
  | none => simp [fieldOr, present, misfit_inMember_iff]
  | some held =>
      have accepted := Schema.property_eq_nil_iff.mp shaped held present
      simp [fieldOr, present, fails_under_iff, misfit_inMember_iff,
        failsAt held accepted]

theorem fails_itemsFrom_iff (failsAt : FailsAt schema decode places)
    {values : List Value} (shaped : ∀ item ∈ values, schema item = [])
    (position : Nat) :
    Fails (itemsFrom decode position values) ↔
      ∃ item ∈ values, places.Misfit item := by
  induction values generalizing position with
  | nil => simp [itemsFrom]
  | cons item values induction =>
      obtain ⟨shapedHere, shapedLater⟩ := List.forall_mem_cons.mp shaped
      have first := fails_under_iff (.index position) |>.trans
        (failsAt item shapedHere)
      have later := induction shapedLater (position + 1)
      rw [itemsFrom, fails_bind_iff first fun _ =>
        fails_bind_pure_iff.trans later]
      simp

theorem list (failsAt : FailsAt schema decode places) {values : List Value}
    (shaped : Schema.items schema (.array values) = []) :
    Fails (Decoder.list decode (.array values)) ↔
      Misfit (inItems places) (.array values) := by
  rw [Decoder.list, misfit_inItems_iff,
    failsAt.fails_itemsFrom_iff (Schema.items_eq_nil_iff.mp shaped)]

theorem whole (failsAt : FailsAt schema decode places) :
    FailsAt schema (Decoder.whole decode) places := by
  intro value shaped
  rw [Decoder.whole, fails_mapError_iff, failsAt value shaped]

/-- Null stands for absence, and holds no number. -/
theorem nullable (failsAt : ∀ value, value ≠ .null → schema value = [] →
      (Fails (decode value) ↔ places.Misfit value))
    (null : ¬places.Misfit .null) :
    FailsAt schema (Decoder.nullable decode) places := by
  intro value shaped
  cases value with
  | null => simp [Decoder.nullable, null]
  | _ =>
      rw [Decoder.nullable, fails_bind_pure_iff]
      · exact failsAt _ (by simp) shaped
      · simp

end FailsAt

section Views

open Decoder

variable {decode : Decoder α} {path : List Selector} {value : Value}
  {result : α} {parts : List Value}

theorem field_eq_ok_iff {name : String} :
    field name decode value = .ok result ↔
      ∃ held, value.get? name = some held ∧ decode held = .ok result := by
  cases present : value.get? name with
  | none => simp [field, present, fail]
  | some held => simp [field, present, under, mapError_eq_ok_iff]

theorem select_of_field {name : String}
    (view : ∀ held, decode held = .ok result → select path held = parts)
    (decoded : field name decode value = .ok result) :
    select (.member name :: path) value = parts := by
  obtain ⟨held, present, decoded⟩ := field_eq_ok_iff.mp decoded
  simpa [select, Selector.parts, present] using view held decoded

theorem select_of_fieldOr {name : String} {absent : α}
    (view : ∀ held, decode held = .ok result → select path held = parts)
    (left : result = absent → parts = [])
    (decoded : fieldOr name absent decode value = .ok result) :
    select (.member name :: path) value = parts := by
  cases present : value.get? name with
  | none =>
      have same : result = absent := by
        simpa [fieldOr, present, eq_comm] using decoded
      simp [select, Selector.parts, present, left same]
  | some held =>
      have decoded : decode held = .ok result := by
        simpa [fieldOr, present, under, mapError_eq_ok_iff] using decoded
      simpa [select, Selector.parts, present] using view held decoded

theorem flatMap_select_of_itemsFrom {view : α → List Value}
    (reads : ∀ value result, decode value = .ok result →
      select path value = view result)
    {values : List Value} {position : Nat} {results : List α}
    (decoded : itemsFrom decode position values = .ok results) :
    values.flatMap (select path) = results.flatMap view := by
  induction values generalizing position results with
  | nil =>
      obtain rfl : [] = results := by simpa [itemsFrom] using decoded
      rfl
  | cons value values induction =>
      simp only [itemsFrom, bind_eq_ok_iff, pure_eq_ok_iff, under,
        mapError_eq_ok_iff] at decoded
      obtain ⟨item, first, items, later, rfl⟩ := decoded
      rw [List.flatMap_cons, List.flatMap_cons, reads value item first,
        induction later]

theorem select_of_list {view : α → List Value}
    (reads : ∀ value result, decode value = .ok result →
      select path value = view result)
    {results : List α} (decoded : list decode value = .ok results) :
    select (.items :: path) value = results.flatMap view := by
  cases value with
  | array values => exact flatMap_select_of_itemsFrom reads decoded
  | _ => simp [list, fail] at decoded

theorem select_of_nullable_list {view : α → List Value}
    (reads : ∀ value result, decode value = .ok result →
      select path value = view result)
    {results : Option (List α)}
    (decoded : nullable (list decode) value = .ok results) :
    select (.items :: path) value = (results.getD []).flatMap view := by
  cases value with
  | null =>
      obtain rfl : none = results := by simpa [nullable] using decoded
      rfl
  | _ =>
      simp only [nullable, bind_eq_ok_iff, pure_eq_ok_iff] at decoded
      obtain ⟨items, decoded, rfl⟩ := decoded
      exact select_of_list reads decoded

theorem field_op_eq_ok_iff {tag : String} :
    field "op" string value = .ok tag ↔ value.tag? = some tag := by
  rw [field_eq_ok_iff, Value.tag?_eq_some_iff]
  constructor
  · intro decoded
    obtain ⟨held, present, decoded⟩ := decoded
    cases held with
    | string text =>
        obtain rfl : text = tag := by simpa [string] using decoded
        exact present
    | _ => simp [string, fail] at decoded
  · intro present
    exact ⟨.string tag, present, rfl⟩

end Views

end LockAudit.Json
