import ClientRegistration.Proofs.Session.Reachable
namespace ClientRegistration

namespace Session

variable {σ α β : Type}

/-- Handles stay what they are, but that those of a list may have been closed; their documents stay,
and a handle that is new has a new one. -/
structure Steady (closing : List Nat) (s s' : Session σ) : Prop where
  changes : Changes s s'
  handle : ∀ {number h}, s.handles[number]? = some h →
    ∃ closed, s'.handles[number]? = some { h with closed } ∧
      (closed ≠ h.closed → number ∈ closing)
  document : ∀ h ∈ s.handles, ∀ m, s.documents[h.document]? = some m →
    s'.documents[h.document]? = some m
  fresh : ∀ x ∈ s'.handles, s.documents.length ≤ x.document ∨
    ∃ h ∈ s.handles, h.document = x.document
  length : s.documents.length ≤ s'.documents.length

theorem steady_of_handles_eq {closing : List Nat} {s s' : Session σ} (changes : Changes s s')
    (handles : s'.handles = s.handles) (documents : s.documents <+: s'.documents) :
    Steady closing s s' where
  changes
  handle found := ⟨_, handles ▸ found, fun hne => absurd rfl hne⟩
  document h _ m hm := by
    obtain ⟨added, hadded⟩ := documents
    rw [← hadded]
    exact getElem?_append_of_getElem? hm added
  fresh x hx := .inr ⟨x, handles ▸ hx, rfl⟩
  length := documents.length_le

instance (closing : List Nat) :
    Lasting (Steady closing : Session σ → Session σ → Prop) where
  refl s := steady_of_handles_eq .refl rfl (List.prefix_refl _)
  trans {s s' s''} h h' := by
    refine ⟨Lasting.trans h.changes h'.changes, fun {number x} found => ?_,
      fun x hx m hm => ?_, fun x hx => ?_, h.length.trans h'.length⟩
    · obtain ⟨closed, hfound, hclosed⟩ := h.handle found
      obtain ⟨closed', hfound', hclosed'⟩ := h'.handle hfound
      refine ⟨closed', hfound', fun hne => ?_⟩
      -- A handle that has been closed was closed in one half or in the other.
      by_cases heq : closed = x.closed
      · exact hclosed' (heq ▸ hne)
      · exact hclosed heq
    · obtain ⟨number, found⟩ := List.getElem?_of_mem hx
      obtain ⟨closed, hfound, -⟩ := h.handle found
      exact h'.document { x with closed } (List.mem_of_getElem? hfound) m (h.document x hx m hm)
    · rcases h'.fresh x hx with hnew | ⟨y, hy, hdocument⟩
      · exact .inl (h.length.trans hnew)
      · rw [← hdocument]
        exact h.fresh y hy

theorem upheld_steady (closing : List Nat) :
    Upheld (Steady closing : Session σ → Session σ → Prop) where
  beside h := steady_of_handles_eq (upheld_changes.beside h) h.handles
    (h.documents ▸ List.prefix_refl _)
  addDocument m s := steady_of_handles_eq (orderly_addDocument m s) rfl (List.prefix_append _ _)
  create metadata uri token config filters s := by
    have changes := orderly_create metadata uri token config filters s
    rw [run_create] at changes ⊢
    cases hm : Metadata.ofValue metadata with
    | error fault => exact Lasting.refl s
    | ok m =>
      rw [hm] at changes
      simp only [run_addHandle] at changes ⊢
      cases hr : filters.normalize with
      | error fault => exact Lasting.refl s
      | ok registry =>
        rw [hr] at changes
        refine ⟨changes, fun found => ?_, fun h _ m hm => ?_, fun x hx => ?_, ?_⟩
        · exact ⟨_, getElem?_append_of_getElem? found _, fun hne => absurd rfl hne⟩
        · exact getElem?_append_of_getElem? hm _
        · rcases List.mem_append.1 hx with hold | hnew
          · exact .inr ⟨x, hold, rfl⟩
          · rw [List.mem_singleton.1 hnew]
            exact .inl le_rfl
        · exact (List.prefix_append _ _).length_le

theorem steady_release (closing : List Nat) :
    Keeps (Steady closing) (release : Action σ (Option Fault)) := fun s => by
  have changes := orderly_release s
  rw [run_release] at changes ⊢
  exact steady_of_handles_eq changes rfl (List.prefix_refl _)

theorem steady_markClosed (number : Nat) :
    Keeps (Steady [number]) (markClosed number : Action σ Unit) := fun s => by
  have changes := orderly_markClosed number s
  cases found : s.handles[number]? with
  | none =>
    simp only [markClosed, handle, run_bind, run_get, run_entry, found]
    exact Lasting.refl s
  | some h =>
    rw [run_markClosed found] at changes ⊢
    refine ⟨changes, fun {other x} hx => ?_, fun _ _ _ hm => hm, fun x hx => ?_, le_rfl⟩
    · by_cases hother : other = number
      · obtain ⟨closed, hfound, -⟩ := changes.handle_stays hx
        exact ⟨closed, hfound, fun _ => List.mem_singleton.2 hother⟩
      · refine ⟨x.closed, ?_, fun hne => absurd rfl hne⟩
        exact (List.getElem?_set_ne (Ne.symm hother)).trans hx
    · rcases List.mem_or_eq_of_mem_set hx with hold | rfl
      · exact .inr ⟨x, hold, rfl⟩
      · exact .inr ⟨h, List.mem_of_getElem? found, rfl⟩

theorem steady_closeHandle (number : Nat) :
    Keeps (Steady [number]) (closeHandle number : Action σ Unit) :=
  keeps_closeHandle (upheld_steady _).log (steady_release _) (steady_markClosed number)

theorem steady_edit {s : Session σ} {number : Nat} (free : ∀ h ∈ s.handles, h.document ≠ number)
    (m : Metadata) : Steady [] s { s with documents := s.documents.set number m } where
  changes := .single (.edit s free m)
  handle found := ⟨_, found, fun hne => absurd rfl hne⟩
  document h hmem _ hheld := (List.getElem?_set_ne (free h hmem).symm).trans hheld
  fresh x hx := .inr ⟨x, hx, rfl⟩
  length := (List.length_set ..).ge

def AddsDocument (action : Action σ Nat) : Prop :=
  ∀ {s s' : Session σ} {number}, s.run action = (.ok number, s') →
    number = s.documents.length ∧ ∃ m, s' = { s with documents := s.documents ++ [m] }

instance : Lasting (Eq : Session σ → Session σ → Prop) where
  refl _ := rfl
  trans := Eq.trans

theorem addsDocument_addDocument (m : Metadata) :
    AddsDocument (addDocument m : Action σ Nat) := fun h => by
  cases h
  exact ⟨rfl, m, rfl⟩

theorem AddsDocument.bind {action : Action σ α} (h : Keeps Eq action) {next : α → Action σ Nat}
    (hnext : ∀ a, AddsDocument (next a)) : AddsDocument (action >>= next) := by
  intro s s' number hrun
  have hs := h s
  rw [run_bind] at hrun
  generalize s.run action = outcome at hs hrun
  obtain ⟨fault | a, after⟩ := outcome
  · cases hrun
  · cases hs
    exact hnext a hrun

theorem addsDocument_metadata (number : Nat) : AddsDocument (metadata number : Action σ Nat) := by
  refine AddsDocument.bind (keeps_handle number) ?_
  intro h
  refine AddsDocument.bind (keeps_lift _) ?_
  intro _
  refine AddsDocument.bind (keeps_document h.document) ?_
  intro m
  exact AddsDocument.bind (keeps_lift _) addsDocument_addDocument

end Session

end ClientRegistration
