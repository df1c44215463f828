import ClientRegistration.Proofs.CanonicalText
namespace ClientRegistration

namespace Metadata

/-- What is done with metadata. Anything can be made of a dictionary that has been given out, and
any content can be left in what a field holds. -/
inductive Use where
  | item (key : Value)
  | itemOr (key fallback : Value)
  | attribute (name : Value)
  | has (key : Value)
  | keys
  | length
  | literal
  | comparison (other : Value)
  | copy
  | toDictionary
  | modification (how : Modification)
  | changeDictionary (number : Nat) (content : Value)
  | changeInPlace (key : Text) (content : Value)

def Use.changeOf (key : Text) : Use → Option Value
  | .changeInPlace name content => if name = key then some content else none
  | _ => none

end Metadata

namespace Value

/-- A value after a change in place: a list gets other items and a mapping other entries, but it
becomes nothing else, and no other value can be changed. -/
def changed : Value → Value → Value
  | .list _, .list items => .list items
  | .mapping _, .mapping entries => .mapping entries
  | v, _ => v

def changedBy (key : Text) (uses : List Metadata.Use) (v : Value) : Value :=
  (uses.filterMap (Metadata.Use.changeOf key)).foldl changed v

end Value

namespace Metadata

def change (m : Metadata) (key : Text) (content : Value) : Metadata :=
  match m.fields.get? key with
  | some v => { m with fields := m.fields.put key (v.changed content) }
  | none => m

theorem source_change (m : Metadata) (key : Text) (content : Value) :
    (m.change key content).source = m.source := by
  rw [change]
  split <;> rfl

theorem keys_change (m : Metadata) (key : Text) (content : Value) :
    (m.change key content).fields.keys = m.fields.keys := by
  rw [change]
  split
  · next v hv =>
    have hmem : key ∈ m.fields.keys := by
      rw [← Fields.has_iff_mem_keys, Fields.has_eq_isSome_get?, hv]
      rfl
    rw [Fields.keys_put, if_pos hmem]
  · rfl

theorem get?_change (m : Metadata) (key : Text) (content : Value) (name : Text) :
    (m.change key content).fields.get? name =
      (m.fields.get? name).map fun v => if key = name then v.changed content else v := by
  rw [change]
  by_cases hname : key = name
  · subst hname
    cases hv : m.fields.get? key with
    | none => simp [hv]
    | some v => simp
  · simp only [if_neg hname, Option.map_id']
    split
    · exact Fields.get?_put_of_ne (Ne.symm hname) _ _
    · rfl

/-- The text of metadata reads as the fields, and whatever metadata is made of it, of its text or
of a dictionary, is equal to it. -/
structure Coherent (m : Metadata) : Prop where
  text : ∃ document, Value.readText m.source = .ok document ∧
    (Value.ofJson document).equals m.toMapping = true
  copy : ∃ copied, m.copy = .ok copied ∧ copied.toValue.equals m.toValue = true
  again : ∃ made, ofValue m.toValue = .ok made ∧ made.toValue.equals m.toValue = true
  canonical : ∃ made, m.canonical = .ok made ∧ made.toValue.equals m.toValue = true

theorem Genuine.exists_document {m : Metadata} (h : m.Genuine) :
    ∃ document, Value.readText m.source = .ok document ∧ Value.ofJson document = m.toMapping := by
  obtain ⟨members, hread, hfields⟩ := h
  refine ⟨.object members, Value.readText_eq_ok_iff.2 hread, ?_⟩
  rw [Value.ofJson_object, toMapping, hfields]

theorem Genuine.coherent {m : Metadata} (h : m.Genuine) : m.Coherent := by
  obtain ⟨members, readable, hfields⟩ := h.exists_members
  have hequal (source : Text) : (Value.metadata source (Value.fieldsOfMembers members)).equals
      m.toValue = true := by
    rw [toValue, hfields]
    exact Value.equals_metadata_of_members _ _ members
  have hself : m.toValue.equals m.toValue = true := by
    have := hequal m.source
    rwa [← hfields] at this
  refine ⟨?_, ⟨m, h.copy_eq, hself⟩, ⟨m, h.ofValue_toValue, hself⟩,
    ⟨_, canonical_of_fields readable hfields, hequal _⟩⟩
  obtain ⟨document, hread, hdocument⟩ := h.exists_document
  refine ⟨document, hread, ?_⟩
  rw [hdocument, toMapping, hfields, ← Value.ofJson_object]
  exact Value.equals_ofJson_object members

/-- Metadata with the dictionaries that have been made of it. -/
structure Held where
  metadata : Metadata
  dictionaries : List Value := []

namespace Held

def use (h : Held) : Use → Except Fault Value × Held
  | .item key => (h.metadata.get key, h)
  | .itemOr key fallback => ((·.getD fallback) <$> h.metadata.get? key, h)
  | .attribute name => (h.metadata.attributeNamed name, h)
  | .has key => ((.bool ·.isSome) <$> h.metadata.get? key, h)
  | .keys => (.ok (.list (h.metadata.fields.keys.map .text)), h)
  | .length => (.ok (.int h.metadata.fields.length), h)
  | .literal => (.ok (.text h.metadata.toValue.literal), h)
  | .comparison other => (.ok (.bool (h.metadata.toValue.equals other)), h)
  | .copy => (Metadata.toValue <$> h.metadata.copy, h)
  | .toDictionary =>
    match h.metadata.toDictionary with
    | .ok dictionary => (.ok dictionary, { h with dictionaries := h.dictionaries ++ [dictionary] })
    | .error fault => (.error fault, h)
  | .modification how => (Metadata.refuse how, h)
  | .changeDictionary number content =>
    (.ok .null, { h with dictionaries := h.dictionaries.set number content })
  | .changeInPlace key content => (.ok .null, { h with metadata := h.metadata.change key content })

def useAll (h : Held) (uses : List Use) : Held := uses.foldl (fun h use => (h.use use).2) h

/-- A use leaves the metadata as it is, unless it changes in place what a field holds. -/
theorem metadata_use (h : Held) (use : Use) :
    (h.use use).2.metadata = h.metadata ∧ (∀ key, use.changeOf key = none) ∨
      ∃ key content, use = .changeInPlace key content ∧
        (h.use use).2.metadata = h.metadata.change key content := by
  cases use with
  | changeInPlace key content => exact .inr ⟨key, content, rfl, rfl⟩
  | toDictionary =>
    refine .inl ⟨?_, fun _ => rfl⟩
    rw [Held.use]
    split <;> rfl
  | _ => exact .inl ⟨rfl, fun _ => rfl⟩

theorem source_use (h : Held) (use : Use) :
    (h.use use).2.metadata.source = h.metadata.source := by
  obtain ⟨hsame, -⟩ | ⟨key, content, -, hchange⟩ := h.metadata_use use
  · rw [hsame]
  · rw [hchange, source_change]

theorem keys_use (h : Held) (use : Use) :
    (h.use use).2.metadata.fields.keys = h.metadata.fields.keys := by
  obtain ⟨hsame, -⟩ | ⟨key, content, -, hchange⟩ := h.metadata_use use
  · rw [hsame]
  · rw [hchange, keys_change]

theorem get?_use (h : Held) (use : Use) (key : Text) :
    (h.use use).2.metadata.fields.get? key =
      (h.metadata.fields.get? key).map (Value.changedBy key [use]) := by
  obtain ⟨hsame, hnone⟩ | ⟨name, content, rfl, hchange⟩ := h.metadata_use use
  · have hid : Value.changedBy key [use] = id := by
      funext v
      simp [Value.changedBy, hnone]
    rw [hsame, hid, Option.map_id_fun, id]
  · rw [hchange, get?_change]
    congr 1
    funext v
    by_cases hname : name = key <;> simp [Value.changedBy, Use.changeOf, hname]

section

variable (h : Held) (uses : List Use)

theorem useAll_eq_of_use_eq {α : Type} {f : Held → α} (hstep : ∀ h use, f (Held.use h use).2 = f h) :
    f (h.useAll uses) = f h := by
  induction uses generalizing h with
  | nil => rfl
  | cons use rest ih => exact (ih _).trans (hstep h use)

theorem source_useAll : (h.useAll uses).metadata.source = h.metadata.source :=
  useAll_eq_of_use_eq h uses (f := fun h => h.metadata.source) source_use

theorem keys_useAll : (h.useAll uses).metadata.fields.keys = h.metadata.fields.keys :=
  useAll_eq_of_use_eq h uses (f := fun h => h.metadata.fields.keys) keys_use

theorem get?_useAll (key : Text) :
    (h.useAll uses).metadata.fields.get? key =
      (h.metadata.fields.get? key).map (Value.changedBy key uses) := by
  induction uses generalizing h with
  | nil => exact (congrFun Option.map_id_fun _).symm
  | cons use rest ih =>
    have hcons : Value.changedBy key (use :: rest) =
        Value.changedBy key rest ∘ Value.changedBy key [use] := by
      funext v
      simp only [Value.changedBy, Function.comp_apply, ← List.foldl_append,
        ← List.filterMap_append, List.singleton_append]
    rw [hcons, ← Option.map_map, ← h.get?_use use]
    exact ih _

end

theorem use_eq_of_metadata {h h' : Held} (hsame : h'.metadata = h.metadata) (use : Use) :
    (h'.use use).1 = (h.use use).1 := by
  cases use with
  | toDictionary =>
    rw [Held.use, Held.use, hsame]
    cases h.metadata.toDictionary <;> rfl
  | _ => simp only [Held.use, hsame]

/-- Whatever is done with metadata, its text and all metadata made of this text are as they were at
first. The fields keep their keys, and each value is the one at first with what changes in place
have left of it: text and fields part exactly where the two are not equal. As long as such changes
leave every value as it was, nothing at all has changed. -/
theorem text_stays {v : Value} {m : Metadata} (made : ofValue v = .ok m)
    (uses : List Use) :
    let after := (useAll ⟨m, []⟩ uses).metadata
    after.source = m.source ∧ after.copy = .ok m ∧ ofValue after.toValue = .ok m ∧
      after.fields.keys = m.fields.keys ∧
      (∀ key, after.fields.get? key = (m.fields.get? key).map (Value.changedBy key uses)) ∧
      ((∃ document, Value.readText after.source = .ok document ∧
        (Value.ofJson document).equals after.toMapping = true) ↔
          m.toMapping.equals after.toMapping = true) ∧
      ((∀ key v, m.fields.get? key = some v → v.changedBy key uses = v) →
        after = m ∧ after.Coherent ∧
          ∀ use, (Held.use (useAll ⟨m, []⟩ uses) use).1 = (Held.use ⟨m, []⟩ use).1) := by
  intro after
  have genuine := genuine_of_ofValue made
  have hsource : after.source = m.source := source_useAll ⟨m, []⟩ uses
  have hkeys : after.fields.keys = m.fields.keys := keys_useAll ⟨m, []⟩ uses
  have hget := get?_useAll ⟨m, []⟩ uses
  have hread : ofSource m.source = .ok m := ofSource_eq_ok_iff.2 ⟨rfl, genuine⟩
  refine ⟨hsource, ?_, ?_, hkeys, hget, ?_, ?_⟩
  · rw [copy, hsource, hread]
  · change ofSource after.source = .ok m
    rw [hsource, hread]
  · obtain ⟨document, hdocument, hvalue⟩ := genuine.exists_document
    rw [hsource, hdocument]
    simp only [Except.ok.injEq, exists_eq_left', hvalue]
  · intro unchanged
    have hfields : after.fields = m.fields := by
      refine Fields.eq_of_get? genuine.nodup_keys hkeys fun key => (hget key).trans ?_
      cases hv : m.fields.get? key with
      | none => rfl
      | some v => exact congrArg some (unchanged key v hv)
    have hafter : after = m := by
      rw [show after = ⟨after.source, after.fields⟩ from rfl, hsource, hfields]
    exact ⟨hafter, hafter ▸ genuine.coherent, use_eq_of_metadata hafter⟩

/-- Dictionaries are changed, items are assigned and a text is to become a list: all in vain. -/
theorem text_stays_of_vain_changes :
    let m := ofMembers [("client_id", .text "c"), ("redirect_uris", .array [.text "u"])]
    let uses : List Use := [.toDictionary, .changeDictionary 0 .null, .modification .assignment,
      .changeInPlace "client_id" (.list []), .attribute (.text "redirect_uris")]
    let after := (useAll ⟨m, []⟩ uses).metadata
    ofValue m.toMapping = .ok m ∧ after = m ∧ after.Coherent := by
  intro m uses after
  have nodup : (Fields.keys [(Text.ofString "client_id", Json.text "c"),
      ("redirect_uris", .array [.text "u"])]).Nodup := by decide
  have readable : (Json.object
      [("client_id", .text "c"), ("redirect_uris", .array [.text "u"])]).Readable :=
    ⟨nodup, trivial, ⟨trivial, trivial, trivial⟩, trivial⟩
  have made : ofValue m.toMapping = .ok m := ofValue_toMapping readable
  obtain ⟨-, -, -, -, -, -, hstays⟩ := text_stays made uses
  have unchanged : ∀ key v, m.fields.get? key = some v → v.changedBy key uses = v := by
    intro key v hv
    by_cases hkey : key = Text.ofString "client_id"
    · subst hkey
      cases hv
      rfl
    · simp [uses, Value.changedBy, List.filterMap_cons, Use.changeOf, Ne.symm hkey]
  obtain ⟨hafter, hcoherent, -⟩ := hstays unchanged
  exact ⟨made, hafter, hcoherent⟩

/-- An item is put into a list in place: the text does not have it, and neither has a copy. -/
theorem change_parts_text_and_data :
    let m := ofMembers [("redirect_uris", .array [])]
    let after := (useAll ⟨m, []⟩ [.changeInPlace "redirect_uris" (.list [.text "u"])]).metadata
    ofValue m.toMapping = .ok m ∧
      m.append (.text "redirect_uris") (.text "u") = .ok after ∧
      (∃ document, Value.readText after.source = .ok document ∧
        (Value.ofJson document).equals after.toMapping = false) ∧
      ∃ copied, after.copy = .ok copied ∧ copied.toValue.equals after.toValue = false := by
  intro m after
  have readable : (Json.object [("redirect_uris", .array [])]).Readable :=
    ⟨show (Fields.keys [(Text.ofString "redirect_uris", Json.array [])]).Nodup by decide,
      ⟨trivial, trivial⟩, trivial⟩
  have made : ofValue m.toMapping = .ok m := ofValue_toMapping readable
  have genuine := genuine_of_ofValue made
  have happend : m.append (.text "redirect_uris") (.text "u") = .ok after := by
    rfl
  refine ⟨made, happend, ?_, m, genuine.copy_eq, ?_⟩
  · obtain ⟨document, hread, hvalue⟩ := genuine.exists_document
    refine ⟨document, hread, ?_⟩
    rw [hvalue]
    change (Value.mapping [(.text _, .list [])]).equals (.mapping [(.text _, .list [_])]) = false
    simp [Value.equals, Value.entriesWithin, Value.itemsEqual, Value.isDocumentNaN]
  · change (Value.metadata _ [(_, .list [])]).equals (.metadata _ [(_, .list [_])]) = false
    simp [Value.equals, Value.fieldsWithin, Value.itemsEqual, Value.isDocumentNaN]

end Held

end Metadata

end ClientRegistration
