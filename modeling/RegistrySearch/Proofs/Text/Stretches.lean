import Mathlib.Data.List.SplitBy
import RegistrySearch.Proofs.Text.Runs
import RegistrySearch.Proofs.Unicode.Ordering

/-!
# Words and what stands between them

A text is put together from `stretches`, words and what stands between them by turns. Its runs are
the stretches that are words, and if something else is put for each of them, words for words or not,
the runs of the whole are those of the parts. A text whose stretches begin with no combining mark is
decomposed stretch by stretch (`KeepsStretches`).
-/

namespace RegistrySearch.Text

open Unicode

/-- The words of a text and what stands between them. -/
def stretches (s : List Char) : List (List Char) :=
  s.splitBy fun c d => isAlphanumeric c == isAlphanumeric d

/-- A text is decomposed stretch by stretch: no mark moves from one into another. -/
def KeepsStretches (s : List Char) : Prop :=
  decomposed s = (stretches s).flatMap decomposed

instance (s : List Char) : Decidable (KeepsStretches s) :=
  inferInstanceAs (Decidable (decomposed s = (stretches s).flatMap decomposed))

/-- A stretch of characters that are alphanumeric, or of characters that are not. -/
structure IsStretch (p : List Char) : Prop where
  ne_nil : p ≠ []
  uniform : (∀ c ∈ p, isAlphanumeric c) ∨ ∀ c ∈ p, isAlphanumeric c = false

/-- Of two stretches in a row one is a word and one is none. -/
def Alternate (p q : List Char) : Prop :=
  (∀ c ∈ p, isAlphanumeric c) ↔ ∀ c ∈ q, isAlphanumeric c = false

theorem flatten_stretches (s : List Char) : (stretches s).flatten = s := List.flatten_splitBy _ s

theorem isStretch_of_mem_stretches {s p : List Char} (h : p ∈ stretches s) : IsStretch p where
  ne_nil := fun hnil => List.nil_notMem_splitBy _ s (hnil ▸ h)
  uniform := by
    have hchain : (p.map isAlphanumeric).IsChain (· = ·) := by
      rw [List.isChain_map]
      exact (List.isChain_of_mem_splitBy h).imp fun _ _ => eq_of_beq
    cases p with
    | nil => exact .inl fun c hc => absurd hc List.not_mem_nil
    | cons d p =>
      have hsame : ∀ c ∈ d :: p, isAlphanumeric c = isAlphanumeric d := fun c hc =>
        List.eq_of_mem_replicate (List.isChain_eq_iff_eq_replicate.mp hchain _ rfl ▸
          List.mem_map_of_mem hc)
      cases hd : isAlphanumeric d with
      | true => exact .inl fun c hc => (hsame c hc).trans hd
      | false => exact .inr fun c hc => (hsame c hc).trans hd

theorem isChain_stretches (s : List Char) : (stretches s).IsChain Alternate := by
  refine (List.isChain_getLast_head_splitBy _ s).imp_of_mem_imp fun p q hp hq h => ?_
  obtain ⟨hpne, hqne, hdiffer⟩ := h
  have hlast := List.getLast_mem hpne
  have hhead := List.head_mem hqne
  rw [beq_eq_false_iff_ne] at hdiffer
  obtain hpw | hpn := (isStretch_of_mem_stretches hp).uniform
  · refine iff_of_true hpw ?_
    obtain hqw | hqn := (isStretch_of_mem_stretches hq).uniform
    · rw [hpw _ hlast, hqw _ hhead] at hdiffer
      exact absurd rfl hdiffer
    · exact hqn
  · have hfalse := hpn _ hlast
    refine iff_of_false (fun hpw => ?_) fun hqn => ?_
    · rw [hpw _ hlast] at hfalse
      cases hfalse
    · rw [hfalse, hqn _ hhead] at hdiffer
      exact absurd rfl hdiffer

/-- A text is decomposed stretch by stretch if no stretch of it begins with a combining mark. -/
theorem keepsStretches_of_head {s : List Char}
    (h : ∀ p ∈ stretches s, p.head?.all fun c => (decompose c).head?.all (combiningClass · = 0)) :
    KeepsStretches s := by
  simp only [Option.all_eq_true, decide_eq_true_eq] at h
  have hall : ∀ ps : List (List Char), (∀ p ∈ ps, p ≠ []) →
      (∀ p ∈ ps, ∀ c ∈ p.head?, ∀ d ∈ (decompose c).head?, combiningClass d = 0) →
        decomposed ps.flatten = ps.flatMap decomposed := by
    intro ps hne hhead
    induction ps with
    | nil => rfl
    | cons p ps ih =>
      obtain ⟨-, hne⟩ := List.forall_mem_cons.mp hne
      obtain ⟨-, hhead⟩ := List.forall_mem_cons.mp hhead
      rw [List.flatten_cons, List.flatMap_cons, ← ih hne hhead]
      refine decomposed_append fun c hc => ?_
      -- what follows `p` begins as the next stretch does
      cases ps with
      | nil => cases hc
      | cons q ps =>
        rw [List.flatten_cons, List.head?_append_of_ne_nil _ (hne q List.mem_cons_self)] at hc
        exact hhead q List.mem_cons_self c hc
  have hflatten := hall (stretches s) (fun p hp => (isStretch_of_mem_stretches hp).ne_nil) h
  rwa [flatten_stretches] at hflatten

/-! ### Runs of stretches -/

/-- What is put for the stretches of a text, words in the place of words or not, has runs stretch by
stretch. -/
theorem runs_flatMap {f : List Char → List Char} (hne : ∀ p ≠ [], f p ≠ [])
    (hf : ∀ p, (∀ c ∈ p, isAlphanumeric c = false) → ∀ c ∈ f p, isAlphanumeric c = false)
    {ps : List (List Char)} (hps : ∀ p ∈ ps, IsStretch p) (halternate : ps.IsChain Alternate) :
    runs isAlphanumeric (ps.flatMap f) = ps.flatMap fun p => runs isAlphanumeric (f p) := by
  induction ps with
  | nil => rfl
  | cons p ps ih =>
    obtain ⟨hhead, halternate⟩ := List.isChain_cons.mp halternate
    have hrest := ih (fun q hq => hps q (List.mem_cons_of_mem p hq)) halternate
    rw [List.flatMap_cons, List.flatMap_cons, runs_append, hrest]
    -- the cut is at a separator: what is put for `p` ends with one, or what follows begins with one
    intro c hc d hd hcw
    have hcmem := List.mem_of_getLast? hc
    obtain hpw | hpn := (hps p List.mem_cons_self).uniform
    · cases ps with
      | nil => cases hd
      | cons q ps =>
        have hqn := (hhead q rfl).mp hpw
        have hqne := hne q (hps q (List.mem_cons_of_mem p List.mem_cons_self)).ne_nil
        rw [List.flatMap_cons, List.head?_append_of_ne_nil _ hqne] at hd
        exact hf q hqn d (List.mem_of_head? hd)
    · rw [hf p hpn c hcmem] at hcw
      cases hcw

theorem runs_eq_nil {p : List Char} (h : ∀ c ∈ p, isAlphanumeric c = false) :
    runs isAlphanumeric p = [] := by
  refine List.eq_nil_iff_forall_not_mem.mpr fun r hr => ?_
  obtain ⟨hne, hall, hpart⟩ := mem_runs hr
  obtain ⟨c, hc⟩ := List.exists_mem_of_ne_nil r hne
  have hfalse := h c (hpart.subset hc)
  rw [hall c hc] at hfalse
  cases hfalse

/-- The runs of a text are its stretches that are words. -/
theorem mem_runs_iff_mem_stretches {s w : List Char} :
    w ∈ runs isAlphanumeric s ↔ w ∈ stretches s ∧ ∀ c ∈ w, isAlphanumeric c := by
  have hruns : runs isAlphanumeric s =
      (stretches s).flatMap fun p => runs isAlphanumeric p := by
    have hflat := runs_flatMap (f := id) (fun _ h => h) (fun _ h => h)
      (fun p hp => isStretch_of_mem_stretches hp) (isChain_stretches s)
    rwa [List.flatMap_id, flatten_stretches] at hflat
  rw [hruns, List.mem_flatMap]
  constructor
  · rintro ⟨p, hp, hw⟩
    obtain hpw | hpn := (isStretch_of_mem_stretches hp).uniform
    · rw [runs_word (isStretch_of_mem_stretches hp).ne_nil hpw, List.mem_singleton] at hw
      exact ⟨hw ▸ hp, hw ▸ hpw⟩
    · rw [runs_eq_nil hpn] at hw
      cases hw
  · rintro ⟨hw, hall⟩
    refine ⟨w, hw, ?_⟩
    rw [runs_word (isStretch_of_mem_stretches hw).ne_nil hall]
    exact List.mem_singleton_self w

end RegistrySearch.Text
