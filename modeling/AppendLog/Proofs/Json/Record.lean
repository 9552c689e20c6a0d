import AppendLog.Json.Record
import Mathlib.Data.List.Nodup

/-!
# Fields of records

A record that is read from JSON has its fields from the members of their names, or from the items in
their places. What was written as a record is read as that record, `record?_ofMembers`. Members of
other names change nothing, `record?_of_widens`. The value that is given for a field is the one that
is found there, `lookup_of_gives`.
-/

namespace AppendLog.Json

variable {names : List String} {name : String} {value json : Json} {record : Record}
  {members wider : List (Option String × Json)}

/-! ## Members that are fields -/

/-- The members that are fields, in their order, if the name of every member is a text. -/
def fields? (names : List String) : List (Option String × Json) → Option Record
  | [] => some []
  | (name?, value) :: members => do
    let name ← name?
    let record ← fields? names members
    return if name ∈ names then (name, value) :: record else record

theorem fields?_cons (member : Option String × Json) :
    fields? names (member :: members) = member.1.bind fun name =>
      (fields? names members).map fun record =>
        if name ∈ names then (name, member.2) :: record else record := by
  rw [fields?]
  cases member.1 with
  | none => rfl
  | some name => cases fields? names members <;> rfl

/-- A member with its name, if that is a text. -/
def named? (member : Option String × Json) : Option (String × Json) :=
  member.1.map fun name => (name, member.2)

theorem fields?_eq (names : List String) (members : List (Option String × Json)) :
    fields? names members =
      (members.mapM named?).map (List.filter fun field => names.contains field.1) := by
  induction members with
  | nil => rfl
  | cons member members ih =>
    rw [fields?_cons, ih, List.mapM_cons]
    cases hname : member.1 with
    | none => simp [named?, hname]
    | some name => cases members.mapM named? <;> simp [named?, hname, List.filter_cons]

theorem fieldsOfMembers?_eq (names : List String) (members : List (Option String × Json)) :
    fieldsOfMembers? names members = (fields? names members).bind fun record =>
      if (record.map Prod.fst).Nodup then some record else none := by
  rw [fields?_eq, Option.bind_map]
  rfl

/-- Members that are all fields are the record. -/
theorem fields?_of_forall {record : Record} (h : ∀ member ∈ record, member.1 ∈ names) :
    fields? names (record.map fun (name, value) => (some name, value)) = some record := by
  induction record with
  | nil => rfl
  | cons member rest ih =>
    have hrest := ih fun member hmem => h member (List.mem_cons_of_mem _ hmem)
    rw [List.map_cons, fields?_cons, hrest, Option.bind_some, Option.map_some,
      if_pos (h member List.mem_cons_self)]

/-- What was written as a record of these fields is read as that record. -/
theorem record?_ofMembers {record : Record} (h : record.map Prod.fst = names)
    (hnames : names.Nodup) : (ofMembers record).record? names = some record := by
  have hfields : ∀ member ∈ record, member.1 ∈ names := by
    intro member hmem
    rw [← h]
    exact List.mem_map_of_mem hmem
  rw [ofMembers, record?, fieldsOfMembers?_eq, fields?_of_forall hfields, Option.bind_some,
    if_pos (h ▸ hnames)]

/-! ## Members that are none -/

/-- Members, and the same with others in between that have none of these names. -/
inductive Inserts (names : List String) :
    List (Option String × Json) → List (Option String × Json) → Prop where
  | nil : Inserts names [] []
  | keep (member : Option String × Json) {members wider : List (Option String × Json)}
      (h : Inserts names members wider) : Inserts names (member :: members) (member :: wider)
  | extra {name : String} (hname : name ∉ names) (value : Json)
      {members wider : List (Option String × Json)} (h : Inserts names members wider) :
      Inserts names members ((some name, value) :: wider)

/-- An object, and the same with members more that have none of these names. -/
inductive Widens (names : List String) : Json → Json → Prop where
  | object {members wider : List (Option String × Json)} (h : Inserts names members wider) :
    Widens names (object members) (object wider)

theorem fields?_of_inserts (h : Inserts names members wider) :
    fields? names wider = fields? names members := by
  induction h with
  | nil => rfl
  | keep member _ ih => rw [fields?_cons, fields?_cons, ih]
  | extra hname value _ ih => simp [fields?_cons, hname, ih]

theorem record?_of_widens {wider : Json} (h : Widens names json wider) :
    wider.record? names = json.record? names := by
  cases h with
  | object h =>
    rw [record?, record?, fieldsOfMembers?_eq, fieldsOfMembers?_eq, fields?_of_inserts h]

/-! ## Values of fields -/

/-- The value that a record in JSON gives for a field: that of a member of its name, or the item in
its place. -/
inductive Gives (names : List String) (name : String) (value : Json) : Json → Prop where
  | member {members : List (Option String × Json)} (h : (some name, value) ∈ members) :
    Gives names name value (object members)
  | item {items : List Json} (i : Nat) (hname : names[i]? = some name)
      (hitem : items[i]? = some value) : Gives names name value (array items)

theorem mem_fields (hname : name ∈ names) (hmem : (some name, value) ∈ members)
    (h : fields? names members = some record) : (name, value) ∈ record := by
  induction members generalizing record with
  | nil => cases hmem
  | cons member members ih =>
    rw [fields?_cons] at h
    obtain ⟨name', hname', h⟩ := Option.bind_eq_some_iff.1 h
    obtain ⟨rest, hrest, rfl⟩ := Option.map_eq_some_iff.1 h
    rcases List.mem_cons.1 hmem with rfl | hmem
    · obtain rfl := Option.some.inj hname'
      rw [if_pos hname]
      exact List.mem_cons_self
    · have hfound := ih hmem hrest
      split
      · exact List.mem_cons_of_mem _ hfound
      · exact hfound

theorem mem_of_gives (hname : name ∈ names) (h : Gives names name value json)
    (hrecord : json.record? names = some record) : (name, value) ∈ record := by
  cases h with
  | member hmem =>
    rw [record?, fieldsOfMembers?_eq, Option.bind_eq_some_iff] at hrecord
    obtain ⟨fields, hfields, hrecord⟩ := hrecord
    obtain ⟨-, hrecord⟩ := Option.ite_none_right_eq_some.1 hrecord
    obtain rfl := Option.some.inj hrecord
    exact mem_fields hname hmem hfields
  | item _ hplace hitem =>
    obtain ⟨-, hrecord⟩ := Option.ite_none_right_eq_some.1 hrecord
    obtain rfl := Option.some.inj hrecord
    exact List.mem_of_getElem? (List.getElem?_zip_eq_some.2 ⟨hplace, hitem⟩)

/-- No field stands twice in a record that was read. -/
theorem nodup_of_record? (hnames : names.Nodup) (h : json.record? names = some record) :
    (record.map Prod.fst).Nodup := by
  cases json with
  | object members =>
    rw [record?, fieldsOfMembers?_eq, Option.bind_eq_some_iff] at h
    obtain ⟨fields, -, h⟩ := h
    obtain ⟨hnodup, h⟩ := Option.ite_none_right_eq_some.1 h
    obtain rfl := Option.some.inj h
    exact hnodup
  | array items =>
    obtain ⟨hlength, h⟩ := Option.ite_none_right_eq_some.1 h
    obtain rfl := Option.some.inj h
    rwa [List.map_fst_zip (Nat.le_of_eq hlength.symm)]
  | _ => cases h

theorem lookup_of_mem (h : (record.map Prod.fst).Nodup) (hmem : (name, value) ∈ record) :
    record.lookup name = some value := by
  obtain ⟨before, after, rfl⟩ := List.append_of_mem hmem
  rw [List.map_append, List.map_cons, List.nodup_append] at h
  rw [List.lookup_eq_some_iff]
  refine ⟨before, after, rfl, fun member hmember => ?_⟩
  rw [bne_iff_ne]
  exact (h.2.2 member.1 (List.mem_map_of_mem hmember) name List.mem_cons_self).symm

/-- The value that is given for a field is found there, if there is a record at all. -/
theorem lookup_of_gives (hnames : names.Nodup) (hname : name ∈ names)
    (h : Gives names name value json) (hrecord : json.record? names = some record) :
    record.lookup name = some value :=
  lookup_of_mem (nodup_of_record? hnames hrecord) (mem_of_gives hname h hrecord)

end AppendLog.Json
