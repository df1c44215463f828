import ClientRegistration.Proofs.Merge
import ClientRegistration.Proofs.Value.Document
namespace ClientRegistration.Value

/-- A mapping or metadata with these fields, each of them once. -/
structure IsDocument (v : Value) (fields : Fields Text Value) : Prop where
  entries : v.entries? = some (entriesOfFields fields)
  nodup : fields.keys.Nodup

theorem isPrivate_text (key : Text) :
    (Value.text key).isPrivate = privateFields.contains key := by
  rw [isPrivate, List.contains_eq_any_beq]
  simp only [text_beq_text, BEq.comm]

theorem has_entriesOfFields (key : Text) (fields : Fields Text Value) :
    (entriesOfFields fields).has (.text key) = fields.has key := by
  rw [Fields.has_eq_isSome_get?, Fields.has_eq_isSome_get?, get?_entriesOfFields]

theorem mergeFields_entriesOfFields (current new : Fields Text Value) :
    mergeFields isPrivate (entriesOfFields current) (entriesOfFields new) =
      entriesOfFields (mergeFields privateFields.contains current new) := by
  simp only [mergeFields, ← isPrivate_text, ← get?_entriesOfFields, ← has_entriesOfFields]
  simp [entriesOfFields, List.filter_map, Function.comp_def]

namespace IsDocument

variable {v w : Value} {current new : Fields Text Value}

theorem mapping {fields : Fields Text Value} (nodup : fields.keys.Nodup) :
    (Value.mapping (entriesOfFields fields)).IsDocument fields := ⟨rfl, nodup⟩

theorem merge_eq (hv : v.IsDocument current) (hw : w.IsDocument new) :
    v.merge w = .ok (entriesOfFields (mergeFields privateFields.contains current new)) := by
  rw [Value.merge, hv.entries, hw.entries, ← mergeFields_entriesOfFields]

end IsDocument

/-- The laws of the merge. A document may be a mapping or metadata; a merge is used as a mapping. -/
theorem merge_laws {x y z : Value} {a b c : Fields Text Value} (hx : x.IsDocument a)
    (hy : y.IsDocument b) (hz : z.IsDocument c) :
    ∃ xy yz xyz stripped,
      x.merge y = .ok xy ∧ y.merge z = .ok yz ∧
      (mapping xy).merge z = .ok xyz ∧ x.merge (.mapping yz) = .ok xyz ∧
      stripped = entriesOfFields (a.filter fun (key, _) => !privateFields.contains key) ∧
      x.merge (.mapping []) = .ok stripped ∧ (mapping []).merge x = .ok stripped ∧
      x.merge x = .ok stripped ∧
      (mapping xy).merge y = .ok xy ∧ x.merge (.mapping xy) = .ok xy := by
  have hempty : (mapping []).IsDocument [] := ⟨rfl, List.nodup_nil⟩
  have hxy := IsDocument.mapping
    (nodup_keys_mergeFields privateFields.contains hx.nodup hy.nodup)
  have hyz := IsDocument.mapping
    (nodup_keys_mergeFields privateFields.contains hy.nodup hz.nodup)
  refine ⟨_, _, _, _, hx.merge_eq hy, hy.merge_eq hz, hxy.merge_eq hz, ?_, rfl, ?_, ?_, ?_, ?_, ?_⟩
  · rw [hx.merge_eq hyz, mergeFields_assoc]
  · rw [hx.merge_eq hempty, mergeFields_nil]
  · rw [hempty.merge_eq hx, nil_mergeFields]
  · rw [hx.merge_eq hx, mergeFields_self _ hx.nodup]
  · rw [hxy.merge_eq hy, mergeFields_again _ _ hy.nodup]
  · rw [hx.merge_eq hxy, mergeFields_twice _ _ hx.nodup]

theorem merge_laws_of_private_fields :
    let a : Fields Text Value := [("client_id_issued_at", .int 1), ("scope", .text "a")]
    let b : Fields Text Value := [("client_name", .null), ("scope", .text "b")]
    let c : Fields Text Value := [("client_secret_expires_at", .int 0), ("client_name", .text "c")]
    let x : Value := .metadata [] a
    let y : Value := .mapping (entriesOfFields b)
    let z : Value := .mapping (entriesOfFields c)
    x.IsDocument a ∧ y.IsDocument b ∧ z.IsDocument c ∧
      ∃ xy yz,
        x.merge y = .ok xy ∧ y.merge z = .ok yz ∧
        (mapping xy).merge z =
          .ok (entriesOfFields [("scope", .text "b"), ("client_name", .text "c")]) ∧
        x.merge (.mapping yz) =
          .ok (entriesOfFields [("scope", .text "b"), ("client_name", .text "c")]) ∧
        x.merge x = .ok (entriesOfFields [("scope", .text "a")]) := by
  intro a b c x y z
  have hx : x.IsDocument a := ⟨rfl, by decide⟩
  have hy : y.IsDocument b := .mapping (by decide)
  have hz : z.IsDocument c := .mapping (by decide)
  obtain ⟨xy, yz, xyz, stripped, hxy, hyz, hxyz, hxyz', hstripped, -, -, hself, -⟩ :=
    merge_laws hx hy hz
  have hmerged : xyz = entriesOfFields [("scope", .text "b"), ("client_name", .text "c")] := by
    have hdocument := IsDocument.mapping
      (nodup_keys_mergeFields privateFields.contains hx.nodup hy.nodup)
    cases hxy.symm.trans (hx.merge_eq hy)
    rw [hdocument.merge_eq hz] at hxyz
    cases hxyz
    rfl
  subst hmerged hstripped
  exact ⟨hx, hy, hz, xy, yz, hxy, hyz, hxyz, hxyz', hself⟩

end ClientRegistration.Value
