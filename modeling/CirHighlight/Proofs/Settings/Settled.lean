import CirHighlight.Settings.Loader

namespace CirHighlight.Settings

namespace Value

/-- A value whose tables hold, at every depth, differing names in lower case. -/
inductive Settled : Value → Prop
  | scalar (origin : Option String) (value : Scalar) : Settled (.scalar origin value)
  | array (origin : Option String) (items : List Value) : Settled (.array origin items)
  | table (fields : List (String × Value))
      (hlower : ∀ field ∈ fields, Text.lowercase field.1 = field.1)
      (hnodup : (fields.map Prod.fst).Nodup)
      (hvalues : ∀ field ∈ fields, Settled field.2) : Settled (.table none fields)

theorem field?_table_eq_none {origin : Option String} {fields : List (String × Value)}
    {name : String} (hnew : name ∉ fields.map Prod.fst) :
    (Value.table origin fields).field? name = none := by
  have hfind : fields.find? (·.1 = name) = none := by
    rw [List.find?_eq_none]
    intro field hfield heq
    exact hnew (List.mem_map.2 ⟨field, hfield, by simpa using heq⟩)
  simp only [field?, Value.fields, hfind, Option.map_none]

theorem withField_new {origin : Option String} {fields : List (String × Value)} {name : String}
    (hnew : name ∉ fields.map Prod.fst) (value : Value) :
    (Value.table origin fields).withField name value =
      .table origin (fields ++ [(name, value)]) := by
  simp only [withField, field?_table_eq_none hnew, Option.isSome_none, Bool.false_eq_true,
    if_false, Value.fields]

theorem mergeFields_new {incoming : List (String × Value)}
    (hput : ∀ field ∈ incoming, ∀ origin fields, field.1 ∉ List.map Prod.fst fields →
      setField field.1 field.2 (.table origin fields) = .table origin (fields ++ [field]))
    (hnodup : (incoming.map Prod.fst).Nodup) {origin : Option String}
    {fields : List (String × Value)}
    (hnew : ∀ field ∈ incoming, field.1 ∉ fields.map Prod.fst) :
    mergeFields incoming (.table origin fields) = .table origin (fields ++ incoming) := by
  induction incoming generalizing fields with
  | nil => rw [mergeFields, List.append_nil]
  | cons first rest ih =>
    obtain ⟨hfirst, hrest⟩ := List.nodup_cons.1 hnodup
    rw [mergeFields, hput first List.mem_cons_self origin fields (hnew first List.mem_cons_self),
      ih (fun field hfield => hput field (List.mem_cons_of_mem _ hfield)) hrest,
      List.append_assoc, List.singleton_append]
    intro field hfield hmem
    rw [List.map_append, List.mem_append] at hmem
    rcases hmem with hold | hmem
    · exact hnew field (List.mem_cons_of_mem _ hfield) hold
    · have heq : field.1 = first.1 := by simpa using hmem
      exact hfirst (heq ▸ List.mem_map_of_mem hfield)

theorem setField_of_ne_table {value : Value} (hvalue : ∀ origin inner, value ≠ .table origin inner)
    {name : String} (hlower : Text.lowercase name = name) (target : Value) :
    setField name value target = target.withField name value := by
  rw [setField, hlower]
  exact hvalue

theorem settled_of_ne_table {value : Value} (hvalue : ∀ origin inner, value ≠ .table origin inner) :
    Settled value := by
  cases value with
  | scalar origin scalar => exact .scalar origin scalar
  | array origin items => exact .array origin items
  | table origin inner => exact absurd rfl (hvalue origin inner)

theorem Settled.setField_new {value : Value} (hvalue : Settled value) {name : String}
    (hlower : Text.lowercase name = name) {origin : Option String}
    {fields : List (String × Value)} (hnew : name ∉ fields.map Prod.fst) :
    setField name value (.table origin fields) = .table origin (fields ++ [(name, value)]) := by
  induction hvalue generalizing name origin fields with
  | scalar _ _ => rw [setField_of_ne_table (by simp) hlower, withField_new hnew]
  | array _ _ => rw [setField_of_ne_table (by simp) hlower, withField_new hnew]
  | table incoming hnames hnodup _ ih =>
    have hinner : mergeFields incoming emptyTable = .table none incoming :=
      mergeFields_new (fun field hfield _ _ => ih field hfield (hnames field hfield)) hnodup
        (fun _ _ => List.not_mem_nil)
    rw [setField, hlower, field?_table_eq_none hnew, Option.getD_none, hinner,
      withField_new hnew]

theorem Settled.mergeFields_empty {fields : List (String × Value)}
    (hsettled : Settled (.table none fields)) :
    mergeFields fields emptyTable = .table none fields := by
  cases hsettled with
  | table _ hlower hnodup hvalues =>
    apply mergeFields_new _ hnodup (fun _ _ => List.not_mem_nil)
    intro field hfield origin others hnew
    exact (hvalues field hfield).setField_new (hlower field hfield) hnew

theorem setKey_of_read? {name : String} (hpath : Path.read? name = some ⟨name, []⟩)
    (value target : Value) : target.setKey name value = .ok (setField name value target) := by
  rw [setKey, hpath]
  rfl

theorem setKeys_eq_mergeFields {fields : List (String × Value)}
    (hpaths : ∀ field ∈ fields, Path.read? field.1 = some ⟨field.1, []⟩) (target : Value) :
    target.setKeys fields = .ok (mergeFields fields target) := by
  induction fields generalizing target with
  | nil =>
    rw [mergeFields]
    rfl
  | cons first rest ih =>
    simp only [setKeys, List.foldlM_cons, setKey_of_read? (hpaths first List.mem_cons_self)]
    rw [mergeFields]
    exact ih (fun field hfield => hpaths field (List.mem_cons_of_mem _ hfield)) _

end Value

theorem Loader.put_settled {fields : List (String × Value)}
    (hsettled : Value.Settled (.table none fields))
    (hpaths : ∀ field ∈ fields, Path.read? field.1 = some ⟨field.1, []⟩) :
    Loader.put .emptyTable fields = .ok (.table none fields) := by
  rw [Loader.put, Value.setKeys_eq_mergeFields hpaths, hsettled.mergeFields_empty]
  rfl

end CirHighlight.Settings
