import LocationDrift.Proofs.LiveVerdict

/-!
# The JSON form of a display parameter

A display parameter is written as JSON the way its model dumps itself by alias with the unset
values left out, and it reads back through the model as itself.

**The dump (`DisplayIssue.dump`).** Every field of the record in order, `null` where it has no
value, keyed by the camel case of its name (`Text.camelOf`): `file_path` is `filePath`, `exists`
stays `exists`. A location's range is dumped with its hash, the issue's root range without one.
`Json.dropNulls` leaves out every object field whose value is `null`, at every depth, and nothing
else: false flags, empty texts and empty lists stay. The written form is the dump without its
nulls (`DisplayIssue.toJson_eq_dropNulls`).

**Reading back.** The written keys are distinct, so a field is found under its key and a name
that is no key finds nothing (`FieldName.find?_presentFields`); each field decoder then reads back
what was written for it (`Decoder.optional_presentFields` and its siblings), and ranges,
locations, flows and display parameters read back in turn. The one thing the model refuses is a
location that matches but is not present (`DisplayIssue.decode_toJson_iff`).

**Builders (`Build.Yields`).** A property of every value a computation gives, from any cache, is
kept by `bind`, `map` and `mapM`. Every location a builder gives passes the check of its flags
(`RemoteVerdict.flags_checked`, `TaintVerdict.flags_checked`, and a live location is present),
so every display parameter of a batch does (`DisplayIssue.build_flagsChecked`).

**Theorem (`batch_payload_reads_back`).** Every display parameter a batch builds is written as
its dump without nulls, and reads back as itself.
-/

namespace LocationDrift

/-! ## The dump -/

namespace Text

/-- A snake-case name in camel case: each underscore before a character is dropped and that
character raised to upper case. -/
def camelOf : Text → Text
  | 95 :: c :: rest => upperAscii c :: camelOf rest
  | c :: rest => c :: camelOf rest
  | [] => []

theorem ofString_injective : Function.Injective ofString := fun _ _ h =>
  String.toList_inj.mp (List.map_injective_iff.mpr (fun _ _ h => Char.toNat_inj.mp h) h)

end Text

namespace Json

mutual
/-- The value with every object field whose value is `null` left out, at every depth. -/
def dropNulls : Json → Json
  | arr vs => arr (dropNullsItems vs)
  | obj fs => obj (dropNullsFields fs)
  | j => j

/-- `dropNulls` on each item; no item is left out. -/
def dropNullsItems : List Json → List Json
  | [] => []
  | v :: vs => dropNulls v :: dropNullsItems vs

/-- `dropNulls` on each field, leaving out the fields whose value is `null`. -/
def dropNullsFields : List (Text × Json) → List (Text × Json)
  | [] => []
  | (_, null) :: kvs => dropNullsFields kvs
  | (k, v) :: kvs => (k, dropNulls v) :: dropNullsFields kvs
end

/-- An object of every field of a record, keyed by the camel case of the field's name. -/
def record (fields : List (String × Json)) : Json :=
  obj (fields.map fun (n, v) => (Text.camelOf (Text.ofString n), v))

@[simp] theorem dropNulls_str (s : Text) : dropNulls (str s) = str s := by simp [dropNulls]

@[simp] theorem dropNulls_int (n : Int) : dropNulls (int n) = int n := by simp [dropNulls]

@[simp] theorem dropNulls_bool (b : Bool) : dropNulls (bool b) = bool b := by simp [dropNulls]

@[simp] theorem dropNulls_obj (fs : List (Text × Json)) :
    dropNulls (obj fs) = obj (dropNullsFields fs) := by
  simp [dropNulls]

theorem dropNullsItems_eq_map (vs : List Json) : dropNullsItems vs = vs.map dropNulls := by
  induction vs with
  | nil => simp [dropNullsItems]
  | cons v vs ih => simp [dropNullsItems, ih]

@[simp] theorem dropNulls_arr (vs : List Json) : dropNulls (arr vs) = arr (vs.map dropNulls) := by
  simp [dropNulls, dropNullsItems_eq_map]

@[simp] theorem dropNullsFields_nil : dropNullsFields [] = [] := by simp [dropNullsFields]

@[simp] theorem dropNullsFields_cons {v : Json} (h : v ≠ null) (k : Text) (kvs : List (Text × Json)) :
    dropNullsFields ((k, v) :: kvs) = (k, dropNulls v) :: dropNullsFields kvs := by
  cases v <;> first | exact absurd rfl h | rfl

/-- A field dumped from an optional value is kept, its value without nulls, exactly when there
is a value. -/
@[simp] theorem dropNullsFields_ofOption {α : Type} {e : α → Json} (h : ∀ a, e a ≠ null) (k : Text)
    (o : Option α) (kvs : List (Text × Json)) :
    dropNullsFields ((k, ofOption e o) :: kvs) =
      (o.map fun a => (k, dropNulls (e a))).toList ++ dropNullsFields kvs := by
  cases o with
  | none => rfl
  | some a => exact dropNullsFields_cons (h a) k kvs

@[simp] theorem record_ne_null (fields : List (String × Json)) : record fields ≠ null := nofun

end Json

/-- A range dumped by its four fields. -/
def TextRange.dump (r : TextRange) : Json :=
  Json.record [("start_line", .int r.startLine), ("start_line_offset", .int r.startLineOffset),
    ("end_line", .int r.endLine), ("end_line_offset", .int r.endLineOffset)]

/-- A range with its hash dumped by its five fields. -/
def HashedRange.dump (r : HashedRange) : Json :=
  Json.record [("start_line", .int r.range.startLine),
    ("start_line_offset", .int r.range.startLineOffset), ("end_line", .int r.range.endLine),
    ("end_line_offset", .int r.range.endLineOffset), ("hash", .str r.hash)]

/-- A location dumped by all its fields, `null` where there is no value. -/
def Location.dump (l : Location) : Json :=
  Json.record [("uri", .ofOption .str l.uri), ("file_path", .ofOption .str l.filePath),
    ("message", .ofOption .str l.message), ("text_range", .ofOption HashedRange.dump l.textRange),
    ("exists", .bool l.present), ("code_matches", .bool l.codeMatches)]

/-- A flow dumped by its locations. -/
def Flow.dump (f : Flow) : Json :=
  Json.record [("locations", .arr (f.locations.map Location.dump))]

/-- A display parameter dumped by all its fields, `null` where there is no value. -/
def DisplayIssue.dump (d : DisplayIssue) : Json :=
  Json.record [("file_uri", .ofOption .str d.fileUri), ("message", .str d.message),
    ("severity", .str d.severity), ("rule_key", .str d.ruleKey),
    ("text_range", .ofOption TextRange.dump d.textRange), ("flows", .arr (d.flows.map Flow.dump)),
    ("connection_id", .ofOption .str d.connectionId),
    ("creation_date", .ofOption .str d.creationDate), ("code_matches", .bool d.codeMatches)]

/-! ## The written form is the dump without nulls -/

namespace Json

/-- The fields of `present fields`: those that have a value, keyed by their text. -/
def presentFields (fields : List (String × Option Json)) : List (Text × Json) :=
  fields.filterMap fun (k, v) => v.map fun j => (Text.ofString k, j)

theorem present_eq_obj (fields : List (String × Option Json)) :
    present fields = obj (presentFields fields) := rfl

@[simp] theorem presentFields_nil : presentFields [] = [] := rfl

@[simp] theorem presentFields_cons (k : String) (v : Option Json)
    (rest : List (String × Option Json)) :
    presentFields ((k, v) :: rest) =
      (v.map fun j => (Text.ofString k, j)).toList ++ presentFields rest := by
  cases v <;> rfl

/-- An object of fields that all have values is the present object of them. -/
theorem object_eq_present (fields : List (String × Json)) :
    object fields = present (fields.map fun kv => (kv.1, some kv.2)) := by
  induction fields with
  | nil => rfl
  | cons kv rest ih =>
    simp only [object, present, List.map_cons, List.filterMap_cons, Option.map_some] at ih ⊢
    rw [obj.injEq] at ih
    rw [ih]

end Json

-- The keys left to compare are closed texts, `camelOf` of a name against its alias.
theorem TextRange.toJson_eq_dropNulls (r : TextRange) : r.toJson = r.dump.dropNulls := by
  simp [TextRange.toJson, TextRange.dump, Json.object, Json.record]
  decide

theorem HashedRange.toJson_eq_dropNulls (r : HashedRange) : r.toJson = r.dump.dropNulls := by
  simp [HashedRange.toJson, HashedRange.dump, Json.object, Json.record]
  decide

@[simp] theorem TextRange.dump_ne_null (r : TextRange) : r.dump ≠ .null := Json.record_ne_null _

@[simp] theorem HashedRange.dump_ne_null (r : HashedRange) : r.dump ≠ .null := Json.record_ne_null _

/-- A location is written as its dump without nulls: each optional field is kept exactly when it
has a value, its range with the hash. -/
theorem Location.toJson_eq_dropNulls (l : Location) : l.toJson = l.dump.dropNulls := by
  simp [Location.toJson, Location.dump, Json.present_eq_obj, Json.record,
    ← HashedRange.toJson_eq_dropNulls, Function.comp_def]
  rfl

theorem Flow.toJson_eq_dropNulls (f : Flow) : f.toJson = f.dump.dropNulls := by
  simp [Flow.toJson, Flow.dump, Json.object, Json.record, Function.comp_def,
    ← Location.toJson_eq_dropNulls]
  decide

/-- **A display parameter is written as its dump without nulls**, at every depth: the root range
without a hash, every location's range with its hash, and every field that has a value kept,
false flags, empty texts and empty lists included. -/
theorem DisplayIssue.toJson_eq_dropNulls (d : DisplayIssue) : d.toJson = d.dump.dropNulls := by
  simp [DisplayIssue.toJson, DisplayIssue.dump, Json.present_eq_obj, Json.record,
    ← TextRange.toJson_eq_dropNulls, ← Flow.toJson_eq_dropNulls, Function.comp_def]
  rfl

/-! ## Fields of a written object -/

namespace Json

variable {fields : List (String × Option Json)}

theorem field?_cons (k key : Text) (v : Json) (fs : List (Text × Json)) :
    field? ((k, v) :: fs) key = if k = key then some v else field? fs key := by
  by_cases h : k = key <;> simp [field?, h]

/-- A name that is no key finds nothing. -/
theorem field?_presentFields_of_not_mem {k : String} (hk : k ∉ fields.map Prod.fst) :
    field? (presentFields fields) (Text.ofString k) = none := by
  induction fields with
  | nil => rfl
  | cons kv rest ih =>
    obtain ⟨k', v⟩ := kv
    simp only [List.map_cons, List.mem_cons, not_or] at hk
    rw [presentFields_cons]
    cases v with
    | none => exact ih hk.2
    | some j =>
      rw [Option.map_some, Option.toList_some, List.singleton_append, field?_cons,
        if_neg (fun h => hk.1 (Text.ofString_injective h).symm), ih hk.2]

/-- Among distinct keys, a key finds the value written for it, nothing when it has none. -/
theorem field?_presentFields (hkeys : (fields.map Prod.fst).Nodup) {k : String} {v : Option Json}
    (hmem : (k, v) ∈ fields) : field? (presentFields fields) (Text.ofString k) = v := by
  induction fields with
  | nil => cases hmem
  | cons kv rest ih =>
    obtain ⟨k', v'⟩ := kv
    rw [List.map_cons, List.nodup_cons] at hkeys
    rw [presentFields_cons]
    rcases List.mem_cons.mp hmem with heq | hrest
    · -- the field itself: no later field has its key
      cases heq
      cases v with
      | none => exact field?_presentFields_of_not_mem hkeys.1
      | some j => simp [field?_cons]
    · -- a later field, whose key is not this one
      have hk : k ∈ rest.map Prod.fst := List.mem_map_of_mem (f := Prod.fst) hrest
      have hne : k' ≠ k := fun h => hkeys.1 (h ▸ hk)
      cases v' with
      | none => exact ih hkeys.2 hrest
      | some j =>
        rw [Option.map_some, Option.toList_some, List.singleton_append, field?_cons,
          if_neg (fun h => hne (Text.ofString_injective h)), ih hkeys.2 hrest]

end Json

/-- A field of a written object is found under its key; when it has no value, its own name finds
nothing either, being that key or no key at all. -/
theorem FieldName.find?_presentFields {fields : List (String × Option Json)}
    (hkeys : (fields.map Prod.fst).Nodup) {f : FieldName} {v : Option Json}
    (hmem : (f.key, v) ∈ fields)
    (hname : v = none → f.name = f.key ∨ f.name ∉ fields.map Prod.fst) :
    f.find? (Json.presentFields fields) = v.map fun j => (Text.ofString f.key, j) := by
  unfold FieldName.find?
  rw [Json.field?_presentFields hkeys hmem]
  cases v with
  | some j => rfl
  | none =>
    rcases hname rfl with h | h
    · rw [h, Json.field?_presentFields hkeys hmem]
    · rw [Json.field?_presentFields_of_not_mem h]
      rfl

/-! ## Reading back -/

@[simp] theorem Lax.str_str (t : Text) : Lax.str (.str t) = .ok t := rfl

namespace Checked

@[simp] theorem isOk_under {α : Type} (s : PathStep) (c : Checked α) :
    (under s c).isOk = c.isOk := by
  cases c <;> rfl

@[simp] theorem isOk_zip {α β : Type} (a : Checked α) (b : Checked β) :
    (a.zip b).isOk = (a.isOk && b.isOk) := by
  cases a <;> cases b <;> rfl

end Checked

namespace Decoder

variable {α : Type} {fields : List (String × Option Json)} {f : FieldName} {d : Decoder α}

theorem model_obj (name : String) (read : List (Text × Json) → Checked α)
    (fs : List (Text × Json)) : model name read (.obj fs) = read fs := rfl

theorem nullable_of_ne_null {v : Json} (h : v ≠ .null) : nullable d v = (d v).map some := by
  cases v <;> first | exact absurd rfl h | rfl

/-- A required field is checked on the value written for it, under its key. -/
theorem required_presentFields (hkeys : (fields.map Prod.fst).Nodup) {j : Json}
    (hmem : (f.key, some j) ∈ fields) :
    required (Json.presentFields fields) f d = Checked.under (.key (Text.ofString f.key)) (d j) := by
  rw [required, FieldName.find?_presentFields hkeys hmem nofun]
  rfl

/-- A field with a default is checked on the value written for it, under its key. -/
theorem withDefault_presentFields (hkeys : (fields.map Prod.fst).Nodup) {j : Json}
    (hmem : (f.key, some j) ∈ fields) (x : α) :
    withDefault (Json.presentFields fields) f x d =
      Checked.under (.key (Text.ofString f.key)) (d j) := by
  rw [withDefault, FieldName.find?_presentFields hkeys hmem nofun]
  rfl

/-- An optional field reads back what was written for it, its absence as none; a name that is
no key cannot stand in for it. -/
theorem optional_presentFields (hkeys : (fields.map Prod.fst).Nodup) {e : α → Json}
    {o : Option α} (hmem : (f.key, o.map e) ∈ fields)
    (hname : f.name = f.key ∨ f.name ∉ fields.map Prod.fst) (hd : ∀ a, d (e a) = .ok a)
    (hne : ∀ a, e a ≠ .null) :
    optional (Json.presentFields fields) f d = .ok o := by
  unfold optional withDefault
  rw [FieldName.find?_presentFields hkeys hmem (fun _ => hname)]
  cases o with
  | none => rfl
  | some a =>
    show Checked.under _ (nullable d (e a)) = _
    rw [nullable_of_ne_null (hne a), hd]
    rfl

theorem items_map {e : α → Json} {xs : List α} (hd : ∀ a ∈ xs, d (e a) = .ok a) (i : Nat) :
    items d i (xs.map e) = .ok xs := by
  induction xs generalizing i with
  | nil => rfl
  | cons a xs ih =>
    rw [List.map_cons, items, hd a List.mem_cons_self,
      ih (fun b hb => hd b (List.mem_cons_of_mem a hb))]
    rfl

theorem sequence_map {e : α → Json} {xs : List α} (hd : ∀ a ∈ xs, d (e a) = .ok a) :
    sequence d (.arr (xs.map e)) = .ok xs :=
  items_map hd 0

/-- Items are checked at every position, so the list passes exactly when each item does. -/
theorem isOk_items (i : Nat) (vs : List Json) : (items d i vs).isOk = vs.all fun v => (d v).isOk := by
  induction vs generalizing i with
  | nil => rfl
  | cons v vs ih => simp [items, ih]

theorem isOk_sequence_arr (vs : List Json) :
    (sequence d (.arr vs)).isOk = vs.all fun v => (d v).isOk :=
  isOk_items 0 vs

end Decoder

-- In each model below, the side goals left by the field lemmas are the distinctness of the
-- written keys, the place of each field among them, and that a name which is not its key is
-- written nowhere: facts about literal keys, closed by `simp`.

theorem TextRange.decode_toJson (r : TextRange) : TextRange.decode r.toJson = .ok r := by
  rw [TextRange.toJson, Json.object_eq_present, Json.present_eq_obj, TextRange.decode,
    Decoder.model_obj, TextRange.readFields,
    Decoder.required_presentFields (d := Lax.int) (j := .int r.startLine) ?_ ?_,
    Decoder.required_presentFields (d := Lax.int) (j := .int r.startLineOffset) ?_ ?_,
    Decoder.required_presentFields (d := Lax.int) (j := .int r.endLine) ?_ ?_,
    Decoder.required_presentFields (d := Lax.int) (j := .int r.endLineOffset) ?_ ?_]
  · rfl
  all_goals simp

theorem HashedRange.decode_toJson (r : HashedRange) : HashedRange.decode r.toJson = .ok r := by
  rw [HashedRange.toJson, Json.object_eq_present, Json.present_eq_obj, HashedRange.decode,
    Decoder.model_obj, TextRange.readFields,
    Decoder.required_presentFields (d := Lax.int) (j := .int r.range.startLine) ?_ ?_,
    Decoder.required_presentFields (d := Lax.int) (j := .int r.range.startLineOffset) ?_ ?_,
    Decoder.required_presentFields (d := Lax.int) (j := .int r.range.endLine) ?_ ?_,
    Decoder.required_presentFields (d := Lax.int) (j := .int r.range.endLineOffset) ?_ ?_,
    Decoder.withDefault_presentFields (d := Lax.str) (j := .str r.hash) ?_ ?_]
  · rfl
  all_goals simp

theorem TextRange.toJson_ne_null (r : TextRange) : r.toJson ≠ .null := nofun

theorem HashedRange.toJson_ne_null (r : HashedRange) : r.toJson ≠ .null := nofun

/-- A location's written form reads back as the location, refused exactly when it matches
without being present. -/
theorem Location.decode_toJson_eq (l : Location) :
    Location.decode l.toJson =
      if l.codeMatches && !l.present then
        Checked.fail (.valueError (Text.ofString "code_matches requires exists")) l.toJson
      else .ok l := by
  rw [Location.toJson, Json.present_eq_obj, Location.decode, Decoder.model_obj,
    Location.readFields,
    Decoder.optional_presentFields (o := l.uri) ?_ ?_ ?_ Lax.str_str (fun _ => nofun),
    Decoder.optional_presentFields (o := l.filePath) ?_ ?_ ?_ Lax.str_str (fun _ => nofun),
    Decoder.optional_presentFields (o := l.message) ?_ ?_ ?_ Lax.str_str (fun _ => nofun),
    Decoder.optional_presentFields (o := l.textRange) ?_ ?_ ?_ HashedRange.decode_toJson
      HashedRange.toJson_ne_null,
    Decoder.withDefault_presentFields (d := Lax.bool) (j := .bool l.present) ?_ ?_,
    Decoder.withDefault_presentFields (d := Lax.bool) (j := .bool l.codeMatches) ?_ ?_]
  · rfl
  all_goals simp

/-- A location reads back from its written form when it passes the check of its flags. -/
theorem Location.decode_toJson {l : Location} (hflags : (l.codeMatches && !l.present) = false) :
    Location.decode l.toJson = .ok l := by
  rw [Location.decode_toJson_eq, hflags]
  rfl

theorem Location.isOk_decode_toJson (l : Location) :
    (Location.decode l.toJson).isOk ↔ (l.codeMatches && !l.present) = false := by
  rw [Location.decode_toJson_eq]
  cases l.codeMatches && !l.present <;> simp [Checked.fail]

/-- Every location of the flow passes the check of its flags: one that matches is present. -/
def Flow.FlagsChecked (f : Flow) : Prop :=
  ∀ l ∈ f.locations, (l.codeMatches && !l.present) = false

/-- Every location of every flow passes the check of its flags. -/
def DisplayIssue.FlagsChecked (d : DisplayIssue) : Prop := ∀ f ∈ d.flows, f.FlagsChecked

/-- A flow's written form is read as its written locations, under the key `locations`. -/
theorem Flow.decode_toJson_eq (f : Flow) :
    Flow.decode f.toJson = (Checked.under (.key (Text.ofString "locations"))
      (Decoder.sequence Location.decode (.arr (f.locations.map Location.toJson)))).map Flow.mk := by
  rw [Flow.toJson, Json.object_eq_present, Json.present_eq_obj, Flow.decode, Decoder.model_obj,
    Decoder.withDefault_presentFields (d := Decoder.sequence Location.decode)
      (j := .arr (f.locations.map Location.toJson)) ?_ ?_]
  all_goals simp

theorem Flow.decode_toJson {f : Flow} (h : f.FlagsChecked) : Flow.decode f.toJson = .ok f := by
  rw [Flow.decode_toJson_eq, Decoder.sequence_map fun l hl => Location.decode_toJson (h l hl)]
  rfl

theorem Flow.isOk_decode_toJson (f : Flow) : (Flow.decode f.toJson).isOk ↔ f.FlagsChecked := by
  simp only [Flow.decode_toJson_eq, Except.isOk_map, Checked.isOk_under,
    Decoder.isOk_sequence_arr, List.all_map, List.all_eq_true, Function.comp_apply,
    Location.isOk_decode_toJson, Flow.FlagsChecked]

/-- A display parameter's written form is read as the parameter with its written flows, checked
under the key `flows`: every other field reads back as it was. -/
theorem DisplayIssue.decode_toJson_eq (d : DisplayIssue) :
    DisplayIssue.decode d.toJson = (Checked.under (.key (Text.ofString "flows"))
      (Decoder.sequence Flow.decode (.arr (d.flows.map Flow.toJson)))).map
        fun flows => { d with flows := flows } := by
  rw [DisplayIssue.toJson, Json.present_eq_obj, DisplayIssue.decode, Decoder.model_obj,
    Decoder.optional_presentFields (o := d.fileUri) ?_ ?_ ?_ Lax.str_str (fun _ => nofun),
    Decoder.required_presentFields (d := Lax.str) (j := .str d.message) ?_ ?_,
    Decoder.required_presentFields (d := Lax.str) (j := .str d.severity) ?_ ?_,
    Decoder.required_presentFields (d := Lax.str) (j := .str d.ruleKey) ?_ ?_,
    Decoder.optional_presentFields (o := d.textRange) ?_ ?_ ?_ TextRange.decode_toJson
      TextRange.toJson_ne_null,
    Decoder.withDefault_presentFields (d := Decoder.sequence Flow.decode)
      (j := .arr (d.flows.map Flow.toJson)) ?_ ?_,
    Decoder.optional_presentFields (o := d.connectionId) ?_ ?_ ?_ Lax.str_str (fun _ => nofun),
    Decoder.optional_presentFields (o := d.creationDate) ?_ ?_ ?_ Lax.str_str (fun _ => nofun),
    Decoder.withDefault_presentFields (d := Lax.bool) (j := .bool d.codeMatches) ?_ ?_]
  · -- the flows decide alone: read, or refused with their own violations
    cases Decoder.sequence Flow.decode (.arr (d.flows.map Flow.toJson)) <;> rfl
  all_goals simp

/-- A display parameter reads back from its written form when every location passes the check
of its flags. -/
theorem DisplayIssue.decode_toJson {d : DisplayIssue} (h : d.FlagsChecked) :
    DisplayIssue.decode d.toJson = .ok d := by
  rw [DisplayIssue.decode_toJson_eq, Decoder.sequence_map fun f hf => Flow.decode_toJson (h f hf)]
  rfl

/-- **A display parameter reads back from its written form exactly when every location passes
the check of its flags**: the model refuses nothing else that it writes. -/
theorem DisplayIssue.decode_toJson_iff (d : DisplayIssue) :
    DisplayIssue.decode d.toJson = .ok d ↔ d.FlagsChecked := by
  refine ⟨fun h => ?_, DisplayIssue.decode_toJson⟩
  have hok : (DisplayIssue.decode d.toJson).isOk := by rw [h]; rfl
  simpa only [DisplayIssue.decode_toJson_eq, Except.isOk_map, Checked.isOk_under,
    Decoder.isOk_sequence_arr, List.all_map, List.all_eq_true, Function.comp_apply,
    Flow.isOk_decode_toJson, DisplayIssue.FlagsChecked] using hok

/-! ## Builders -/

namespace Build

/-- Every value the computation gives, from any cache, has the property. -/
def Yields {α : Type} (P : α → Prop) (m : Build α) : Prop :=
  ∀ c a c', m c = .ok (a, c') → P a

namespace Yields

variable {α β : Type} {P : α → Prop} {Q : β → Prop}

theorem pure {a : α} (h : P a) : Yields P (Pure.pure a : Build α) := by
  intro c b c' hm
  cases hm
  exact h

theorem any {m : Build α} (h : ∀ a, P a) : Yields P m := fun _ a _ _ => h a

theorem bind {m : Build α} {f : α → Build β} (hm : Yields P m) (hf : ∀ a, P a → Yields Q (f a)) :
    Yields Q (m >>= f) := by
  intro c b c' h
  obtain ⟨a, c₁, h₁, h₂⟩ := Build.bind_eq_ok h
  exact hf a (hm c a c₁ h₁) c₁ b c' h₂

theorem map {m : Build α} {g : α → β} (hm : Yields P m) (hg : ∀ a, P a → Q (g a)) :
    Yields Q (g <$> m) := by
  rw [map_eq_pure_bind]
  exact hm.bind fun a ha => pure (hg a ha)

theorem mapM {xs : List α} {f : α → Build β} (hf : ∀ x, Yields Q (f x)) :
    Yields (fun bs => ∀ b ∈ bs, Q b) (xs.mapM f) := by
  induction xs with
  | nil => exact pure fun _ h => nomatch h
  | cons x xs ih =>
    rw [List.mapM_cons]
    exact (hf x).bind fun b hb => ih.bind fun bs hbs =>
      pure (List.forall_mem_cons.mpr ⟨hb, hbs⟩)

theorem ofExcept {e : Except Fault α} (h : ∀ a, e = .ok a → P a) :
    Yields P (Build.ofExcept e) := by
  intro c a c' hm
  cases e with
  | error => cases hm
  | ok a₀ =>
    cases hm
    exact h _ rfl

end Yields

end Build

/-- Every value of a traversal that completes is a value of the function it maps. -/
theorem Except.forall_mem_of_mapM {ε α β : Type} {g : α → Except ε β} {P : β → Prop}
    (hg : ∀ x b, g x = .ok b → P b) {xs : List α} {bs : List β} (h : xs.mapM g = .ok bs) :
    ∀ b ∈ bs, P b := by
  induction xs generalizing bs with
  | nil =>
    rw [List.mapM_nil] at h
    cases h
    exact fun _ h => nomatch h
  | cons x xs ih =>
    obtain ⟨b, bs', hx, hxs, rfl⟩ := Except.mapM_cons_eq_ok.mp h
    exact List.forall_mem_cons.mpr ⟨hg x b hx, ih hxs⟩

section Builders

variable (w : Workspace)

theorem Location.ofRemote_flagsChecked (folder : Option Text) (l : RemoteLocation) :
    Build.Yields (fun loc => (loc.codeMatches && !loc.present) = false)
      (Location.ofRemote w folder l) :=
  fun _ _ _ h => (Location.remoteVerdict_of_eq_ok h).flags_checked

theorem Location.ofTaint_flagsChecked (folder : Text) (l : TaintLocation) :
    Build.Yields (fun loc => (loc.codeMatches && !loc.present) = false)
      (Location.ofTaint w folder l) :=
  fun _ _ _ h => (Location.taintVerdict_of_eq_ok h).flags_checked

theorem DisplayIssue.ofRemote_flagsChecked (folder connectionId : Option Text)
    (req : ShowRequest) :
    Build.Yields DisplayIssue.FlagsChecked (DisplayIssue.ofRemote w folder connectionId req) :=
  .bind (.any fun _ => trivial) fun _ _ => .bind (.any fun _ => trivial) fun _ _ =>
    .bind (.mapM fun _ => .map (.mapM fun l => Location.ofRemote_flagsChecked w folder l)
      fun _ h => h) fun _ h => .pure h

theorem DisplayIssue.ofTaint_flagsChecked (connectionId : Option Text) (t : TaintIssue) :
    Build.Yields DisplayIssue.FlagsChecked (DisplayIssue.ofTaint w connectionId t) :=
  .bind (.any fun _ => trivial) fun _ _ =>
    .bind (.mapM fun _ => .map
      (.mapM fun l => Location.ofTaint_flagsChecked w t.workspaceFolderUri l) fun _ h => h)
      fun _ h => .bind (.any fun _ => trivial) fun _ _ => .pure h

/-- A live location is present, so every live display parameter passes the check of its
flags. -/
theorem DisplayIssue.ofLive_flagsChecked {st : Settings} {i : LiveIssue} {d : DisplayIssue}
    (h : DisplayIssue.ofLive w st i = .ok d) : d.FlagsChecked := by
  have hflows : ∃ flows, i.flows.mapM (Flow.ofLive w st) = .ok flows ∧ d.flows = flows := by
    unfold DisplayIssue.ofLive at h
    dsimp only at h
    -- with or without a path of its own, the issue goes on to the same flows
    split at h <;>
    · obtain ⟨_, -, h₁⟩ := Except.bind_eq_ok h
      obtain ⟨flows, hflows, h₂⟩ := Except.bind_eq_ok h₁
      cases h₂
      exact ⟨flows, hflows, rfl⟩
  obtain ⟨flows, hflows, hd⟩ := hflows
  rw [DisplayIssue.FlagsChecked, hd]
  refine Except.forall_mem_of_mapM (fun f flow hf => ?_) hflows
  cases hls : f.locations.mapM (Location.ofLive w st) with
  | error e => rw [Flow.ofLive, hls] at hf; cases hf
  | ok ls =>
    rw [Flow.ofLive, hls] at hf
    cases hf
    refine Except.forall_mem_of_mapM (fun l loc hl => ?_) hls
    obtain ⟨_, -, -, rfl⟩ := Location.ofLive_eq_ok hl
    rfl

end Builders

theorem DisplayIssue.buildBy_flagsChecked (ctx : BatchContext) :
    ∀ d, Build.Yields DisplayIssue.FlagsChecked (DisplayIssue.buildBy ctx d)
  | .remote r => DisplayIssue.ofRemote_flagsChecked ctx.workspace ctx.folder ctx.connectionId r
  | .taint t => DisplayIssue.ofTaint_flagsChecked ctx.workspace ctx.connectionId t
  | .live _ => .bind (.any fun _ => trivial) fun _ _ =>
      .bind (.ofExcept fun _ h => DisplayIssue.ofLive_flagsChecked ctx.workspace h) fun _ h =>
        .bind (.any fun _ => trivial) fun _ _ => .pure h

theorem DisplayIssue.build_flagsChecked (ctx : BatchContext) (d : IssueDocument) :
    Build.Yields DisplayIssue.FlagsChecked (DisplayIssue.build ctx d) :=
  .bind (DisplayIssue.buildBy_flagsChecked ctx d) fun _ h =>
    .bind (.any fun _ => trivial) fun _ _ => .pure h

/-- **Every display parameter of a batch is written as its dump without nulls and reads back as
itself.** Whatever the documents and the cache, each display parameter a batch builds is written
with camel-case keys, every field that has a value kept and every other left out, at every depth
(the root range without a hash, every location's range with its hash), and reading that form
through the model gives the same display parameter. -/
theorem batch_payload_reads_back {ctx : BatchContext} {docs : List IssueDocument} {c c' : Cache}
    {ps : List DisplayIssue} (h : DisplayIssue.batch ctx docs c = .ok (ps, c')) :
    ∀ p ∈ ps, p.toJson = p.dump.dropNulls ∧ DisplayIssue.decode p.toJson = .ok p := by
  have hchecked := Build.Yields.mapM (DisplayIssue.build_flagsChecked ctx) c ps c' h
  intro p hp
  exact ⟨p.toJson_eq_dropNulls, DisplayIssue.decode_toJson (hchecked p hp)⟩

/-- A remote issue with one flow location, both with ranges and no snippets, neither with a
file. -/
def plainRemoteIssue : IssueDocument :=
  .remote ⟨none, ⟨none, Text.ofString "r", Text.ofString "m", [], ⟨1, 0, 1, 1⟩, none, none, false,
    [⟨[⟨[], some ⟨1, 0, 1, 1⟩, none, none⟩]⟩]⟩⟩

/-- Built with a connection, the remote issue gives one display parameter, which is written as
its dump without nulls and reads back. -/
theorem batch_payload_reads_back_on_remote_issue :
    ∃ p c', DisplayIssue.batch ⟨default, none, some (Text.ofString "c")⟩ [plainRemoteIssue]
        (Cache.empty Settings.default) = .ok ([p], c') ∧
      p.toJson = p.dump.dropNulls ∧ DisplayIssue.decode p.toJson = .ok p := by
  obtain ⟨p, c', h⟩ : ∃ p c', DisplayIssue.batch ⟨default, none, some (Text.ofString "c")⟩
      [plainRemoteIssue] (Cache.empty Settings.default) = .ok ([p], c') := ⟨_, _, rfl⟩
  exact ⟨p, c', h, batch_payload_reads_back h p (List.mem_singleton_self p)⟩

end LocationDrift
