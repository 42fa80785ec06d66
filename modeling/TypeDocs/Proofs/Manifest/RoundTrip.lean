import TypeDocs.Manifest.Decode
import TypeDocs.Manifest.Encode
import TypeDocs.Proofs.Manifest.Defaults
import TypeDocs.Proofs.Outline.Reading

/-!
# Reading a manifest that was written

`Manifest.reread` is what reading makes of a written manifest, in every dialect: a property that
declares no default comes back with the default null, since both are written as null, and all else
is as it was. So reading undoes writing exactly for manifests whose properties all declare one.
-/

namespace TypeDocs.Manifest

theorem argumentRecord_unambiguous : argumentRecord.Unambiguous := by
  change Record.NamesApart [["name"], ["value"]]
  decide

theorem attributeRecord_unambiguous : attributeRecord.Unambiguous := by
  change Record.NamesApart [["kind"], ["args"]]
  decide

theorem parameterRecord_unambiguous : parameterRecord.Unambiguous := by
  change Record.NamesApart [["name"], ["type"], ["optional"]]
  decide

theorem propertyRecord_unambiguous : propertyRecord.Unambiguous := by
  change Record.NamesApart [["name"], ["type"], ["attributes"], ["default"], ["public"], ["static"]]
  decide

variable (d : Dialect)

theorem methodRecord_unambiguous : (methodRecord d).Unambiguous := by
  change Record.NamesApart
    [["name"], ["http"], ["attributes"], ["parameters"], ["public"], ["static"], ["inherited"]]
  decide

theorem modelRecord_unambiguous : (modelRecord d).Unambiguous := by
  change Record.NamesApart
    [["name"], ["full_name", "fullName"], ["constructible"], ["attributes"], ["properties"]]
  decide

theorem controllerRecord_unambiguous : (controllerRecord d).Unambiguous := by
  change Record.NamesApart
    [["name"], ["full_name", "fullName"], ["route"], ["attributes"], ["methods"]]
  decide

theorem record_unambiguous : (record d).Unambiguous := by
  change Record.NamesApart [["models"], ["controllers"]]
  decide

theorem readOptionalText_optionalText (s : Option String) :
    readOptionalText (.ofJson (optionalText s)) = .ok s := by
  cases s with
  | none => rfl
  | some s => exact Outline.asOptional_ofJson_text (Outline.asText_ofJson_text s)

theorem read_encodeArgument (a : Argument) :
    argumentRecord.read d (.ofJson (encodeArgument a)) = .ok a := by
  have h := Record.read_object d argumentRecord_unambiguous
    [.text a.name, optionalText a.value] rfl
  have hvalue : (Outline.ofJson (optionalText a.value)).asOptional Outline.asText = .ok a.value :=
    readOptionalText_optionalText a.value
  simp only [argumentRecord, Record.fillAll, List.map_cons, hvalue] at h
  exact h

theorem read_encode_full (a : Attribute) :
    attributeRecord.read settled (.ofJson (AttributeEntry.full a).encode) = .ok a := by
  have h := Record.read_object settled attributeRecord_unambiguous
    [.text a.kind, .array (a.arguments.map encodeArgument)] rfl
  have hargs : (Outline.ofJson (.array (a.arguments.map encodeArgument))).asList
      (argumentRecord.read settled) = .ok (a.arguments.map id) :=
    Outline.asList_ofJson_array fun x _ => read_encodeArgument settled x
  simp only [attributeRecord, Record.fillAll, List.map_cons, hargs, List.map_id] at h
  exact h

theorem AttributeEntry.read_encode (a : AttributeEntry) : read (.ofJson a.encode) = .ok a := by
  rw [read, Outline.settle_ofJson]
  cases a with
  | bare kind => rfl
  | full a =>
    simp only [bind, Except.bind, read_encode_full]
    rfl

theorem readAttributes_encodeAttributes (as : List AttributeEntry) :
    readAttributes (.ofJson (encodeAttributes as)) = .ok as := by
  have h := Outline.asList_ofJson_array (f := id) fun a (_ : a ∈ as) => a.read_encode
  rwa [List.map_id] at h

theorem ParameterEntry.read_encode (p : ParameterEntry) :
    parameterRecord.read d (.ofJson p.encode) = .ok p :=
  Record.read_object d parameterRecord_unambiguous
    [.text p.name, .text p.type, .flag p.optional] rfl

theorem MethodEntry.read_encode (m : MethodEntry) :
    (methodRecord d).read d (.ofJson m.encode) = .ok m := by
  have h := Record.read_object d (methodRecord_unambiguous d)
    [.text m.name, optionalText m.http, encodeAttributes m.attributes,
      .array (m.parameters.map ParameterEntry.encode), .flag m.isPublic, .flag m.isStatic,
      .flag m.isInherited] rfl
  have hparams : (Outline.ofJson (.array (m.parameters.map ParameterEntry.encode))).asList
      (parameterRecord.read d) = .ok (m.parameters.map id) :=
    Outline.asList_ofJson_array fun p _ => p.read_encode d
  simp only [methodRecord, Record.fillAll, List.map_cons, readOptionalText_optionalText,
    readAttributes_encodeAttributes, hparams, List.map_id] at h
  exact h

theorem ControllerEntry.read_encode (c : ControllerEntry) :
    (controllerRecord d).read d (.ofJson c.encode) = .ok c := by
  have h := Record.read_object d (controllerRecord_unambiguous d)
    [.text c.name, optionalText c.fullName, optionalText c.route,
      encodeAttributes c.attributes, .array (c.methods.map MethodEntry.encode)] rfl
  have hmethods : (Outline.ofJson (.array (c.methods.map MethodEntry.encode))).asList
      ((methodRecord d).read d) = .ok (c.methods.map id) :=
    Outline.asList_ofJson_array fun m _ => m.read_encode d
  simp only [controllerRecord, Record.fillAll, List.map_cons, readOptionalText_optionalText,
    readAttributes_encodeAttributes, hmethods, List.map_id] at h
  exact h

/-- What a written property is read as. -/
def PropertyEntry.reread (p : PropertyEntry) : PropertyEntry :=
  { p with default := some (p.default.getD .null).merged }

theorem PropertyEntry.read_encode (p : PropertyEntry) :
    propertyRecord.read d (.ofJson p.encode) = .ok p.reread := by
  have h := Record.read_object d propertyRecord_unambiguous
    [.text p.name, .text p.type, encodeAttributes p.attributes, p.default.getD .null,
      .flag p.isPublic, .flag p.isStatic] rfl
  simp only [propertyRecord, Record.fillAll, List.map_cons, readAttributes_encodeAttributes,
    Outline.asJson_ofJson] at h
  exact h

def ModelEntry.reread (e : ModelEntry) : ModelEntry :=
  { e with properties := e.properties.map PropertyEntry.reread }

theorem ModelEntry.read_encode (e : ModelEntry) :
    (modelRecord d).read d (.ofJson e.encode) = .ok e.reread := by
  have h := Record.read_object d (modelRecord_unambiguous d)
    [.text e.name, optionalText e.fullName, .flag e.constructible,
      encodeAttributes e.attributes, .array (e.properties.map PropertyEntry.encode)] rfl
  have hprops : (Outline.ofJson (.array (e.properties.map PropertyEntry.encode))).asList
      (propertyRecord.read d) = .ok (e.properties.map PropertyEntry.reread) :=
    Outline.asList_ofJson_array fun p _ => p.read_encode d
  simp only [modelRecord, Record.fillAll, List.map_cons, readOptionalText_optionalText,
    readAttributes_encodeAttributes, hprops] at h
  exact h

/-- What a written manifest is read as. -/
def reread (m : Manifest) : Manifest := { m with models := m.models.map ModelEntry.reread }

theorem decode_encode (m : Manifest) : decode d (.ofJson (encode m)) = .ok (reread m) := by
  have h := Record.read_object d (record_unambiguous d)
    [.array (m.models.map ModelEntry.encode),
      .array (m.controllers.map ControllerEntry.encode)] rfl
  have hmodels : (Outline.ofJson (.array (m.models.map ModelEntry.encode))).asList
      ((modelRecord d).read d) = .ok (m.models.map ModelEntry.reread) :=
    Outline.asList_ofJson_array fun e _ => e.read_encode d
  have hcontrollers : (Outline.ofJson (.array (m.controllers.map ControllerEntry.encode))).asList
      ((controllerRecord d).read d) = .ok (m.controllers.map id) :=
    Outline.asList_ofJson_array fun c _ => c.read_encode d
  simp only [record, Record.fillAll, List.map_cons, hmodels, hcontrollers, List.map_id] at h
  exact h

theorem PropertyEntry.reread_eq_self_iff (p : PropertyEntry) :
    p.reread = p ↔ ∃ j, p.default = some j ∧ j.DistinctKeys := by
  constructor
  · intro h
    have hd : some (p.default.getD .null).merged = p.default :=
      congrArg PropertyEntry.default h
    cases hp : p.default with
    | none => simp [hp] at hd
    | some j =>
      rw [hp] at hd
      exact ⟨j, rfl, j.merged_eq_self_iff.mp (Option.some.inj hd)⟩
  · rintro ⟨j, hj, hkeys⟩
    have hd : some (p.default.getD .null).merged = p.default := by
      rw [hj, Option.getD_some, j.merged_eq_self_iff.mpr hkeys]
    rw [reread, hd]

theorem map_eq_self_iff {α : Type} {f : α → α} {xs : List α} :
    xs.map f = xs ↔ ∀ x ∈ xs, f x = x := by
  have h : xs.map f = xs.map id ↔ ∀ x ∈ xs, f x = id x := List.map_inj_left
  rwa [List.map_id] at h

theorem ModelEntry.reread_eq_self_iff (e : ModelEntry) :
    e.reread = e ↔ ∀ p ∈ e.properties, ∃ j, p.default = some j ∧ j.DistinctKeys := by
  have hproperties : e.reread = e ↔ e.properties.map PropertyEntry.reread = e.properties :=
    ⟨congrArg ModelEntry.properties, fun h => by rw [reread, h]⟩
  rw [hproperties, map_eq_self_iff]
  exact forall₂_congr fun p _ => p.reread_eq_self_iff

theorem reread_eq_self_iff (m : Manifest) :
    reread m = m ↔
      ∀ e ∈ m.models, ∀ p ∈ e.properties, ∃ j, p.default = some j ∧ j.DistinctKeys := by
  have hmodels : reread m = m ↔ m.models.map ModelEntry.reread = m.models :=
    ⟨congrArg Manifest.models, fun h => by rw [reread, h]⟩
  rw [hmodels, map_eq_self_iff]
  exact forall₂_congr fun e _ => e.reread_eq_self_iff

/-- A visible property without a default shows the marker, and a value once it was written and
read. -/
theorem describeModel_reread_ne {e : ModelEntry} {p : PropertyEntry} (docs : Documentation)
    (he : e.constructible) (hp : p ∈ e.visible) (hdefault : p.default = none) :
    e.reread.describe.describeModel docs ≠ e.describe.describeModel docs := by
  intro h
  have hvisible : e.reread.visible = e.visible.map PropertyEntry.reread := by
    rw [ModelEntry.visible, ModelEntry.reread, List.filter_map]
    rfl
  have hrows : e.visible.map (fun p => p.reread.describe.describe e.reread.describe docs) =
      e.visible.map (fun p => p.describe.describe e.describe docs) := by
    have hproperties := congrArg ModelDescriptor.properties h
    rwa [properties_describeModel, properties_describeModel, hvisible, List.map_map]
      at hproperties
  have hcell := congrArg PropertyDescriptor.defaultValue (List.map_inj_left.mp hrows p hp)
  have hbefore : e.describe.defaultValue p.describe = Text.missing :=
    defaultValue_of_undeclared e hdefault
  have hafter : e.reread.describe.defaultValue p.reread.describe ≠ Text.missing :=
    defaultValue_ne_missing he (List.mem_map_of_mem (List.mem_filter.mp hp).1) rfl
  exact hafter (hcell.trans hbefore)

/-- A manifest is read back as it was written exactly when every property declares a default. Its
controllers always are, and a model with a sample is described otherwise as soon as one of its
visible properties declares none. -/
theorem decode_encode_eq_self_iff (m : Manifest) (docs : Documentation) :
    (decode d (.ofJson (encode m)) = .ok m ↔
      ∀ e ∈ m.models, ∀ p ∈ e.properties, ∃ j, p.default = some j ∧ j.DistinctKeys) ∧
    ∃ m', decode d (.ofJson (encode m)) = .ok m' ∧
      controllerTypes m' = controllerTypes m ∧
      ((∃ e ∈ m.models, e.constructible ∧ ∃ p ∈ e.visible, p.default = none) →
        (modelTypes m').map (·.describeModel docs) ≠
          (modelTypes m).map (·.describeModel docs)) := by
  refine ⟨?_, reread m, decode_encode d m, rfl, ?_⟩
  · rw [decode_encode, Except.ok.injEq]
    exact reread_eq_self_iff m
  · rintro ⟨e, he, hsample, p, hp, hdefault⟩ h
    have hmodels : m.models.map (fun e => e.reread.describe.describeModel docs) =
        m.models.map (fun e => e.describe.describeModel docs) := by
      simp only [modelTypes, reread, List.map_map] at h
      exact h
    exact describeModel_reread_ne docs hsample hp hdefault (List.map_inj_left.mp hmodels e he)

/-- A property without a default does not come back. -/
theorem decode_encode_ne_of_undeclared :
    decode settled
      (.ofJson (encode ⟨[⟨"A", none, true, [], [⟨"p", "T", [], none, true, false⟩]⟩], []⟩)) ≠
      .ok ⟨[⟨"A", none, true, [], [⟨"p", "T", [], none, true, false⟩]⟩], []⟩ := by
  rw [decode_encode, Ne, Except.ok.injEq, reread_eq_self_iff]
  simp

end TypeDocs.Manifest
