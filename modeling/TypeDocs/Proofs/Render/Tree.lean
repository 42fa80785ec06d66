import TypeDocs.Proofs.Json.RoundTrip
import TypeDocs.Proofs.Text.Naming
import TypeDocs.Render.Structured

/-!
# Descriptors as trees

The tree of a descriptor has fifteen keys. `treeIn` writes it with any spelling of them, and
renaming the keys of a tree respells it. So a JSON document is read back as the tree in Pascal
case, and the YAML document is made from what that tree is in camel case.
-/

namespace TypeDocs

/-- The keys of the trees of descriptors. -/
inductive Key where
  | modelName
  | properties
  | name
  | type
  | description
  | attributes
  | defaultValue
  | controllerName
  | routePrefix
  | methods
  | methodName
  | httpVerb
  | route
  | parameters
  | required
  deriving DecidableEq

namespace Key

def plain : Key → String
  | modelName => "model_name"
  | properties => "properties"
  | name => "name"
  | type => "type"
  | description => "description"
  | attributes => "attributes"
  | defaultValue => "default_value"
  | controllerName => "controller_name"
  | routePrefix => "route_prefix"
  | methods => "methods"
  | methodName => "method_name"
  | httpVerb => "http_verb"
  | route => "route"
  | parameters => "parameters"
  | required => "required"

def pascal : Key → String
  | modelName => "ModelName"
  | properties => "Properties"
  | name => "Name"
  | type => "Type"
  | description => "Description"
  | attributes => "Attributes"
  | defaultValue => "DefaultValue"
  | controllerName => "ControllerName"
  | routePrefix => "RoutePrefix"
  | methods => "Methods"
  | methodName => "MethodName"
  | httpVerb => "HttpVerb"
  | route => "Route"
  | parameters => "Parameters"
  | required => "Required"

def camel : Key → String
  | modelName => "modelName"
  | properties => "properties"
  | name => "name"
  | type => "type"
  | description => "description"
  | attributes => "attributes"
  | defaultValue => "defaultValue"
  | controllerName => "controllerName"
  | routePrefix => "routePrefix"
  | methods => "methods"
  | methodName => "methodName"
  | httpVerb => "httpVerb"
  | route => "route"
  | parameters => "parameters"
  | required => "required"

theorem pascal_plain (k : Key) : Text.Naming.pascal.apply k.plain = k.pascal := by
  rw [Text.Naming.apply_of_lt]
  · cases k <;> decide +kernel
  · cases k <;> decide

theorem camel_plain (k : Key) : Text.Naming.camel.apply k.plain = k.camel := by
  rw [Text.Naming.apply_of_lt]
  · cases k <;> decide +kernel
  · cases k <;> decide

theorem camel_pascal (k : Key) : Text.Naming.camel.apply k.pascal = k.camel := by
  rw [Text.Naming.apply_of_lt]
  · cases k <;> decide +kernel
  · cases k <;> decide

/-- All keys, so that those of each table are in order. -/
def all : List Key :=
  [modelName, properties, controllerName, routePrefix, methods, methodName, httpVerb, route, name,
    type, description, attributes, defaultValue, parameters, required]

/-- Whether a spelling keeps keys apart. -/
def Apart (spell : Key → String) : Prop := (all.map spell).Nodup

theorem apart_pascal : Apart pascal := by
  unfold Apart
  decide

theorem apart_camel : Apart camel := by
  unfold Apart
  decide

theorem Apart.nodup {spell : Key → String} (h : Apart spell) (ks : List Key)
    (hks : ks.isSublist all = true) : (ks.map spell).Nodup :=
  List.Nodup.sublist ((List.isSublist_iff_sublist.mp hks).map spell) h

end Key

section Trees

variable (spell : Key → String)

def PropertyDescriptor.treeIn (p : PropertyDescriptor) : Json :=
  .object [(spell .name, .text p.name), (spell .type, .text p.type),
    (spell .description, .text p.description), (spell .attributes, .text p.attributes),
    (spell .defaultValue, .text p.defaultValue)]

def ModelDescriptor.treeIn (m : ModelDescriptor) : Json :=
  .object [(spell .modelName, .text m.name),
    (spell .properties, .array (m.properties.map (PropertyDescriptor.treeIn spell)))]

def ParameterDescriptor.treeIn (p : ParameterDescriptor) : Json :=
  .object [(spell .name, .text p.name), (spell .type, .text p.type),
    (spell .required, .flag p.required)]

def MethodDescriptor.treeIn (m : MethodDescriptor) : Json :=
  .object [(spell .methodName, .text m.name), (spell .httpVerb, .text m.verb),
    (spell .route, .text m.route), (spell .description, .text m.description),
    (spell .parameters, .array (m.parameters.map (ParameterDescriptor.treeIn spell)))]

def ControllerDescriptor.treeIn (c : ControllerDescriptor) : Json :=
  .object [(spell .controllerName, .text c.name), (spell .routePrefix, .text c.routePrefix),
    (spell .methods, .array (c.methods.map (MethodDescriptor.treeIn spell)))]

/-- What a document describes. -/
inductive Descriptor where
  | model (m : ModelDescriptor)
  | controller (c : ControllerDescriptor)
  deriving DecidableEq

/-- The tree of a descriptor with its keys spelled so. -/
def Descriptor.treeIn : Descriptor → Json
  | .model m => m.treeIn spell
  | .controller c => c.treeIn spell

end Trees

/-- The tree that documents are made from. -/
def Descriptor.toTree : Descriptor → Json
  | .model m => m.toTree
  | .controller c => c.toTree

theorem Descriptor.toTree_eq (d : Descriptor) : d.toTree = d.treeIn Key.plain := by
  cases d <;> rfl

section Recase

variable {naming : Text.Naming} {spell spell' : Key → String}

/-- Renaming the keys of a table whose new keys are distinct keeps its entries in order. -/
theorem Json.recase_object {entries : List (String × Json)}
    (h : (entries.map fun e => naming.apply e.1).Nodup) :
    Json.recase naming (.object entries) =
      .object (entries.map fun e => (naming.apply e.1, Json.recase naming e.2)) := by
  rw [recase, recaseEntries_eq_map, distinct_of_nodup (by rwa [List.map_map])]

theorem Json.recase_array_map {α : Type} {f g : α → Json} {xs : List α}
    (h : ∀ x ∈ xs, Json.recase naming (f x) = g x) :
    Json.recase naming (.array (xs.map f)) = .array (xs.map g) := by
  rw [recase, recaseItems_eq_map, List.map_map]
  exact congrArg Json.array (List.map_congr_left h)

variable (hspell : ∀ k, naming.apply (spell k) = spell' k) (hapart : Key.Apart spell')

include hspell hapart

theorem PropertyDescriptor.recase_treeIn (p : PropertyDescriptor) :
    Json.recase naming (p.treeIn spell) = p.treeIn spell' := by
  have hkeys := hapart.nodup [.name, .type, .description, .attributes, .defaultValue] (by decide)
  rw [treeIn, Json.recase_object (by simpa only [List.map_cons, List.map_nil, hspell] using hkeys)]
  simp only [List.map_cons, List.map_nil, hspell, Json.recase, treeIn]

theorem ModelDescriptor.recase_treeIn (m : ModelDescriptor) :
    Json.recase naming (m.treeIn spell) = m.treeIn spell' := by
  have hkeys := hapart.nodup [.modelName, .properties] (by decide)
  rw [treeIn, Json.recase_object (by simpa only [List.map_cons, List.map_nil, hspell] using hkeys)]
  simp only [List.map_cons, List.map_nil, hspell, Json.recase_array_map fun p _ =>
    PropertyDescriptor.recase_treeIn hspell hapart p, treeIn]
  rfl

theorem ParameterDescriptor.recase_treeIn (p : ParameterDescriptor) :
    Json.recase naming (p.treeIn spell) = p.treeIn spell' := by
  have hkeys := hapart.nodup [.name, .type, .required] (by decide)
  rw [treeIn, Json.recase_object (by simpa only [List.map_cons, List.map_nil, hspell] using hkeys)]
  simp only [List.map_cons, List.map_nil, hspell, Json.recase, treeIn]

theorem MethodDescriptor.recase_treeIn (m : MethodDescriptor) :
    Json.recase naming (m.treeIn spell) = m.treeIn spell' := by
  have hkeys := hapart.nodup [.methodName, .httpVerb, .route, .description, .parameters] (by decide)
  rw [treeIn, Json.recase_object (by simpa only [List.map_cons, List.map_nil, hspell] using hkeys)]
  simp only [List.map_cons, List.map_nil, hspell, Json.recase_array_map fun p _ =>
    ParameterDescriptor.recase_treeIn hspell hapart p, treeIn]
  rfl

theorem ControllerDescriptor.recase_treeIn (c : ControllerDescriptor) :
    Json.recase naming (c.treeIn spell) = c.treeIn spell' := by
  have hkeys := hapart.nodup [.controllerName, .routePrefix, .methods] (by decide)
  rw [treeIn, Json.recase_object (by simpa only [List.map_cons, List.map_nil, hspell] using hkeys)]
  simp only [List.map_cons, List.map_nil, hspell, Json.recase_array_map fun m _ =>
    MethodDescriptor.recase_treeIn hspell hapart m, treeIn]
  rfl

/-- Renaming every key renames the keys of a descriptor's tree and nothing else. -/
theorem Descriptor.recase_treeIn (d : Descriptor) :
    Json.recase naming (d.treeIn spell) = d.treeIn spell' := by
  cases d with
  | model m => exact m.recase_treeIn hspell hapart
  | controller c => exact c.recase_treeIn hspell hapart

end Recase

section Textual

variable {spell : Key → String} (hapart : Key.Apart spell)

include hapart

theorem PropertyDescriptor.textual_treeIn (p : PropertyDescriptor) :
    (p.treeIn spell).Textual 1 := by
  refine .object (hapart.nodup [.name, .type, .description, .attributes, .defaultValue]
    (by decide)) ?_
  simp only [List.forall_mem_cons]
  exact ⟨.text _, .text _, .text _, .text _, .text _, by simp⟩

theorem ModelDescriptor.textual_treeIn (m : ModelDescriptor) : (m.treeIn spell).Textual 3 := by
  have hrows : ∀ x ∈ m.properties.map (PropertyDescriptor.treeIn spell), x.Textual 1 := by
    intro x hx
    obtain ⟨p, _, rfl⟩ := List.mem_map.mp hx
    exact p.textual_treeIn hapart
  refine .object (hapart.nodup [.modelName, .properties] (by decide)) ?_
  simp only [List.forall_mem_cons]
  exact ⟨.text _, .array hrows, by simp⟩

theorem ParameterDescriptor.textual_treeIn (p : ParameterDescriptor) :
    (p.treeIn spell).Textual 1 := by
  refine .object (hapart.nodup [.name, .type, .required] (by decide)) ?_
  simp only [List.forall_mem_cons]
  exact ⟨.text _, .text _, .flag _, by simp⟩

theorem MethodDescriptor.textual_treeIn (m : MethodDescriptor) : (m.treeIn spell).Textual 3 := by
  have hrows : ∀ x ∈ m.parameters.map (ParameterDescriptor.treeIn spell), x.Textual 1 := by
    intro x hx
    obtain ⟨p, _, rfl⟩ := List.mem_map.mp hx
    exact p.textual_treeIn hapart
  refine .object (hapart.nodup [.methodName, .httpVerb, .route, .description, .parameters]
    (by decide)) ?_
  simp only [List.forall_mem_cons]
  exact ⟨.text _, .text _, .text _, .text _, .array hrows, by simp⟩

theorem ControllerDescriptor.textual_treeIn (c : ControllerDescriptor) :
    (c.treeIn spell).Textual 5 := by
  have hrows : ∀ x ∈ c.methods.map (MethodDescriptor.treeIn spell), x.Textual 3 := by
    intro x hx
    obtain ⟨m, _, rfl⟩ := List.mem_map.mp hx
    exact m.textual_treeIn hapart
  refine .object (hapart.nodup [.controllerName, .routePrefix, .methods] (by decide)) ?_
  simp only [List.forall_mem_cons]
  exact ⟨.text _, .text _, .array hrows, by simp⟩

theorem Descriptor.exists_textual_treeIn (d : Descriptor) : ∃ n, (d.treeIn spell).Textual n := by
  cases d with
  | model m => exact ⟨3, m.textual_treeIn hapart⟩
  | controller c => exact ⟨5, c.textual_treeIn hapart⟩

end Textual

section Injective

variable {spell : Key → String}

theorem PropertyDescriptor.eq_of_treeIn_eq {p q : PropertyDescriptor}
    (h : p.treeIn spell = q.treeIn spell) : p = q := by
  cases p
  cases q
  simpa [treeIn] using h

theorem ModelDescriptor.eq_of_treeIn_eq {m m' : ModelDescriptor}
    (h : m.treeIn spell = m'.treeIn spell) : m = m' := by
  cases m
  cases m'
  simpa [treeIn, List.map_inj_right fun _ _ => PropertyDescriptor.eq_of_treeIn_eq] using h

theorem ParameterDescriptor.eq_of_treeIn_eq {p q : ParameterDescriptor}
    (h : p.treeIn spell = q.treeIn spell) : p = q := by
  cases p
  cases q
  simpa [treeIn] using h

theorem MethodDescriptor.eq_of_treeIn_eq {m m' : MethodDescriptor}
    (h : m.treeIn spell = m'.treeIn spell) : m = m' := by
  cases m
  cases m'
  simpa [treeIn, List.map_inj_right fun _ _ => ParameterDescriptor.eq_of_treeIn_eq] using h

theorem ControllerDescriptor.eq_of_treeIn_eq {c c' : ControllerDescriptor}
    (h : c.treeIn spell = c'.treeIn spell) : c = c' := by
  cases c
  cases c'
  simpa [treeIn, List.map_inj_right fun _ _ => MethodDescriptor.eq_of_treeIn_eq] using h

theorem Descriptor.eq_of_treeIn_eq {d d' : Descriptor}
    (h : d.treeIn spell = d'.treeIn spell) : d = d' := by
  cases d with
  | model m =>
    cases d' with
    | model m' => rw [m.eq_of_treeIn_eq h]
    | controller c => simp [treeIn, ModelDescriptor.treeIn, ControllerDescriptor.treeIn] at h
  | controller c =>
    cases d' with
    | model m => simp [treeIn, ModelDescriptor.treeIn, ControllerDescriptor.treeIn] at h
    | controller c' => rw [c.eq_of_treeIn_eq h]

end Injective

namespace Structured

theorem toJson_toTree (d : Descriptor) : toJson d.toTree = (d.treeIn Key.pascal).pretty := by
  rw [toJson, d.toTree_eq, d.recase_treeIn Key.pascal_plain Key.apart_pascal]

theorem parse_toJson (d : Descriptor) :
    Json.parse (toJson d.toTree) = .ok (d.treeIn Key.pascal) := by
  rw [toJson_toTree]
  cases d with
  | model m => exact Json.parse_pretty (m.textual_treeIn Key.apart_pascal).plain (by decide)
  | controller c => exact Json.parse_pretty (c.textual_treeIn Key.apart_pascal).plain (by decide)

/-- A JSON document is read back as the tree in Pascal case, so that it tells which descriptor it
was made from, and the YAML document is made from that tree in camel case. -/
theorem json_yaml_same_data (d : Descriptor) :
    Json.parse (toJson d.toTree) = .ok (d.treeIn Key.pascal) ∧
    (∀ d' : Descriptor, toJson d.toTree = toJson d'.toTree → d = d') ∧
    Json.recase .camel (d.treeIn Key.pascal) = Json.recase .camel d.toTree ∧
    toYaml d.toTree = Yaml.render (Json.recase .camel (d.treeIn Key.pascal)) := by
  have hcamel : Json.recase .camel (d.treeIn Key.pascal) = Json.recase .camel d.toTree := by
    rw [d.toTree_eq, d.recase_treeIn Key.camel_pascal Key.apart_camel,
      d.recase_treeIn Key.camel_plain Key.apart_camel]
  refine ⟨parse_toJson d, fun d' h => ?_, hcamel, by rw [hcamel, toYaml]⟩
  have hread : (.ok (d.treeIn Key.pascal) : Except Fault Json) = .ok (d'.treeIn Key.pascal) := by
    rw [← parse_toJson d, ← parse_toJson d', h]
  exact Descriptor.eq_of_treeIn_eq (Except.ok.inj hread)

end Structured

end TypeDocs
