import RegistrySearch.Proofs.Service.Call
import RegistrySearch.Proofs.Store.Isolation

/-!
# Concurrent search calls

The search in a call directory is a session: it takes the steps of a search call, one after the
other. Since sessions do not interfere, the search finds the same when other calls take their steps
in between.
-/

namespace RegistrySearch

open Query (Clause)
open Text (sanitizeComponent)

namespace Service

variable {s : Service} {caller : Caller} {store : Store} {clause : Clause} {index : Index}
  {i number limit : Nat} {trace : List (Nat × Action)} {answers : List (Nat × Answer)}
  {sys : System} {call : Call}

/-- The answers of a search call are those that it gets alone, whatever other calls do meanwhile. -/
theorem answers_searchCall (h : store.Serves caller.name) (hclean : store.removal = .whole)
    (hcall : call = ⟨sanitizeComponent caller.name, number⟩) (new : call ∉ store.directories)
    (hi : System.ofCall i trace =
      (Action.searchCall caller.name number index clause limit).map (i, ·))
    (halone : System.Alone store trace answers sys i) :
    System.ofCall i answers = [(i, .acquired call), (i, .written), (i, .opened (.ok index)),
      (i, .found (index.search clause limit)), (i, .removed (some call)), (i, .removed none)] := by
  obtain ⟨alone, hrun, -, -⟩ := halone
  obtain ⟨left, hleft, -⟩ := System.run?_searchCall i index clause limit h.directories h.segments
    h.readable hclean h.name hcall new
  rw [hi, hleft] at hrun
  exact (Prod.mk.inj (Option.some.inj hrun)).1.symm

/-- **Concurrent calls.** While other calls take their steps in between, a search call finds what it
finds when no other call runs. -/
theorem searchStored_concurrent (h : store.Serves caller.name) (hclean : store.removal = .whole)
    (new : (⟨sanitizeComponent caller.name, number⟩ : Call) ∉ store.directories)
    (halone : ∀ j, ((System.start store).run? (System.ofCall j trace)).isSome)
    (hnames : System.Names trace)
    (hi : System.ofCall i trace =
      (Action.searchCall caller.name number index clause s.config.limit).map (i, ·)) :
    ∃ answers sys outcome, (System.start store).run? trace = some (answers, sys) ∧
      (∀ found, (i, Answer.found found) ∈ answers ↔ found = outcome) ∧
      (s.searchStored clause caller index store).1 = outcome.mapError .index := by
  obtain ⟨answers, sys, hrun, hsame⟩ := System.exists_run? halone hnames
  have hanswers := answers_searchCall h hclean rfl new hi (hsame i)
  refine ⟨answers, sys, index.search clause s.config.limit, hrun, fun found => ?_,
    searchStored_of_serves h clause index⟩
  have hmem : (i, Answer.found found) ∈ answers ↔
      (i, Answer.found found) ∈ System.ofCall i answers := by simp [System.ofCall]
  rw [hmem, hanswers]
  simp

end Service

end RegistrySearch
