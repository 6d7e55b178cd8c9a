import RegistrySearch.Proofs.Pattern.Wildcards
import RegistrySearch.Proofs.Search.Failure
import RegistrySearch.Proofs.Search.Values
import RegistrySearch.Proofs.Text.Prefixes

/-!
# Words by their beginning

A word with a star behind it is a pattern: its normal form, with the star. It finds the words that
begin in normal form with the normal form of the word. That is not the same as the words that begin
with the word, since what follows the beginning of a word can change its normal form: a sigma that
was final no longer is, and a mark moves in front of another one.
-/

namespace RegistrySearch

open Pattern (wildcard?)
open Query (Clause)
open Text (IsRun KeepsPrefix analyze normalizeChars)
open Unicode (isAlphanumeric)

/-- A word stands in the string at a path of a record. -/
def HasWord (p : Path) (record : Record) (u : List Char) : Prop :=
  ∃ v before after, Record.resolve record p = .string v ∧ v.toList = before ++ (u ++ after) ∧
    IsRun isAlphanumeric before u after

/-- Some record has a given string at a path. -/
theorem exists_resolve_eq (p : Path) (v : String) :
    ∃ record : Record, Record.resolve record p = .string v := by
  have hlookup : ∀ keys, ∃ record : Record, Record.lookup? record keys = some (.string v) := by
    intro keys
    induction keys with
    | nil => exact ⟨.string v, rfl⟩
    | cons key keys ih =>
      obtain ⟨record, hrecord⟩ := ih
      have hget : (Json.Value.object [(key, record)]).get? key = some record := by
        rw [Json.Value.get?, List.lookup_cons_self]
      exact ⟨.object [(key, record)], by rw [Record.lookup?, hget, Option.bind_some, hrecord]⟩
  obtain ⟨record, hrecord⟩ := hlookup p.segments
  exact ⟨record, by rw [Record.resolve, hrecord]; rfl⟩

/-- A clause that matches something has patterns that compile. -/
theorem patternsCompile_of_mem_matched {c : Clause} {records : List Record} {i : Nat}
    (h : i ∈ matched c records) : c.PatternsCompile := by
  obtain ⟨hits, hevaluate, -⟩ := h
  rw [← Clause.firstInvalid?_eq_none_iff, Option.eq_none_iff_forall_ne_some]
  intro e he
  rw [Index.evaluate_eq_error_iff.mpr he] at hevaluate
  cases hevaluate

section star

variable {p : Path} {w s : List Char}

/-- A word with a star behind it is the pattern of its normal form. -/
theorem parse_star (hp : p.IsPlain) (hw : ∀ c ∈ w, isAlphanumeric c) :
    Clause.parse (String.ofList (p.text.toList ++ ':' :: (w ++ ['*']))) =
      .ok (.wildcard p.text (String.ofList (normalizeChars w ++ ['*']))) := by
  have hne : w ++ ['*'] ≠ [] := List.append_ne_nil_of_right_ne_nil w (List.cons_ne_nil _ _)
  have hbare : ∀ c ∈ w ++ ['*'], Query.isBare c := by
    intro c hc
    obtain hc | hc := List.mem_append.mp hc
    · exact Query.isBare_of_isAlphanumeric (hw c hc)
    · rw [List.mem_singleton.mp hc]
      exact Query.isBare_of_lt (by decide)
  have hwild : (w ++ ['*']).any (fun c => c = '*' || c = '?') = true := by
    rw [List.any_append, List.any_cons]
    simp
  have hclause : Query.Word.clause? p.text ((w ++ ['*']).map .plain) =
      some (.wildcard p.text (String.ofList (normalizeChars w ++ ['*']))) := by
    rw [Query.Word.clause?, Query.isWildcard_plain, if_pos hwild, Query.pattern_plain,
      Text.normalize, String.toList_ofList, Text.normalizeChars_star hw]
  refine Query.ReadsPrimary.parse_eq ?_
  rw [String.toList_ofList]
  refine Query.readsPrimary_of_value hp.isName fun rest hrest => ?_
  rw [Query.readValue_word hne hbare hrest, hclause]

/-- **Beginnings.** The pattern of a word matches the records with a term that begins with the
normal form of the word, unless it is too large. -/
theorem mem_matched_star (hp : p.IsPlain) (hw : ∀ c ∈ w, isAlphanumeric c) {records : List Record}
    (hn : records.length ≤ 2 ^ 32) {i : Nat} :
    i ∈ matched (.wildcard p.text (String.ofList (normalizeChars w ++ ['*']))) records ↔
      (wildcard? (String.ofList (normalizeChars w ++ ['*']))).isSome ∧
        ∃ record, records[i]? = some record ∧
          ∃ term, (∃ j, StandsAt (Field.ofValue p (Record.resolve record p)) term j) ∧
            normalizeChars w <+: term.toList := by
  have hbegins {regex : Pattern.Regex} {term : String}
      (hregex : wildcard? (String.ofList (normalizeChars w ++ ['*'])) = some regex) :
      regex.accepts term.toList ↔ normalizeChars w <+: term.toList := by
    rw [Pattern.accepts_wildcard?_iff hregex, String.toList_ofList]
    exact Pattern.wildcardMatches_star_iff fun c hc =>
      Text.notMem_operators_of_mem_normalizeChars hw hc
  constructor
  · intro h
    have hcompile := (Clause.patternsCompile_leaf rfl).mp (patternsCompile_of_mem_matched h)
    rw [Clause.compiles] at hcompile
    obtain ⟨regex, hregex⟩ := Option.isSome_iff_exists.mp hcompile
    refine ⟨hcompile, ?_⟩
    simpa only [hbegins hregex] using (mem_matched_wildcard hp hn hregex).mp h
  · rintro ⟨hcompile, h⟩
    obtain ⟨regex, hregex⟩ := Option.isSome_iff_exists.mp hcompile
    rw [mem_matched_wildcard hp hn hregex]
    simpa only [hbegins hregex] using h

/-- The pattern matches a record of which a longer word is the value exactly if something is left of
that word in normal form and what is added to the word changes nothing in front of it. -/
theorem mem_matched_star_word (hp : p.IsPlain) (hne : w ≠ []) (hw : ∀ c ∈ w, isAlphanumeric c)
    (hs : ∀ c ∈ s, isAlphanumeric c) {record : Record}
    (hvalue : Record.resolve record p = .string (String.ofList (w ++ s))) :
    0 ∈ matched (.wildcard p.text (String.ofList (normalizeChars w ++ ['*']))) [record] ↔
      (wildcard? (String.ofList (normalizeChars w ++ ['*']))).isSome ∧
        normalizeChars (w ++ s) ≠ [] ∧ KeepsPrefix w s := by
  have hws : ∀ c ∈ w ++ s, isAlphanumeric c := List.forall_mem_append.mpr ⟨hw, hs⟩
  have hwsne : w ++ s ≠ [] := List.append_ne_nil_of_left_ne_nil hne s
  rw [mem_matched_star hp hw (by simp), ← Text.normalizeChars_isPrefix_iff hw hs]
  refine and_congr_right fun _ => ?_
  constructor
  · rintro ⟨record', hrecord, term, hstands, hbegins⟩
    obtain rfl : record = record' := Option.some.inj hrecord
    rw [hvalue, exists_standsAt_string hp] at hstands
    obtain ⟨hterm, hterm'⟩ := Text.eq_of_mem_analyze_word hwsne hws hstands
    rw [hterm] at hbegins hterm'
    exact ⟨hterm', hbegins⟩
  · rintro ⟨hnormal, hbegins⟩
    refine ⟨record, rfl, String.ofList (normalizeChars (w ++ s)), ?_, by rwa [String.toList_ofList]⟩
    rw [hvalue, exists_standsAt_string hp, Text.analyze_word hwsne hws hnormal]
    exact List.mem_singleton_self _

/-- **Prefixes.** A word with a star behind it matches all records with a word that begins with it
exactly if its pattern is not too large, something is left of the longer word in normal form, and
what is added to the word changes nothing of the normal form of its beginning. -/
theorem matched_star_iff (hp : p.IsPlain) (hne : w ≠ []) (hw : ∀ c ∈ w, isAlphanumeric c)
    (hs : ∀ c ∈ s, isAlphanumeric c) :
    ∃ c, Clause.parse (String.ofList (p.text.toList ++ ':' :: (w ++ ['*']))) = .ok c ∧
      ((∀ (records : List Record) (i : Nat) (record : Record), records.length ≤ 2 ^ 32 →
          records[i]? = some record → HasWord p record (w ++ s) → i ∈ matched c records) ↔
        (wildcard? (String.ofList (normalizeChars w ++ ['*']))).isSome ∧
          normalizeChars (w ++ s) ≠ [] ∧ KeepsPrefix w s) := by
  refine ⟨_, parse_star hp hw, ?_⟩
  constructor
  · intro h
    obtain ⟨record, hrecord⟩ := exists_resolve_eq p (String.ofList (w ++ s))
    have hword : HasWord p record (w ++ s) := by
      refine ⟨_, [], [], hrecord, ?_, List.append_ne_nil_of_left_ne_nil hne s, ?_, ?_, ?_⟩
      · rw [String.toList_ofList, List.nil_append, List.append_nil]
      · exact List.forall_mem_append.mpr ⟨hw, hs⟩
      · rintro c ⟨⟩
      · rintro c ⟨⟩
    exact (mem_matched_star_word hp hne hw hs hrecord).mp (h [record] 0 record (by simp) rfl hword)
  · rintro ⟨hcompile, hnormal, hkeeps⟩ records i record hn hi ⟨v, before, after, hvalue, hv, hrun⟩
    refine (mem_matched_star hp hw hn).mpr
      ⟨hcompile, record, hi, String.ofList (normalizeChars (w ++ s)), ?_, ?_⟩
    · rw [hvalue, exists_standsAt_string hp, ← String.ofList_toList (s := v), hv]
      exact Text.mem_analyze hrun hnormal
    · rw [String.toList_ofList]
      exact (Text.normalizeChars_isPrefix_iff hw hs).mpr hkeeps

/-- The second word of a name, by its first letters. -/
theorem matched_star_portal :
    ∃ c, Clause.parse "name:port*" = .ok c ∧
      0 ∈ matched c [.object [("name", .string "old portal")]] := by
  have hsmall : ['p', 'o', 'r', 't', 'a', 'l'].all fun c => c.toNat < 0x80 && 0x5A < c.toNat &&
      c.isAlphanum := by decide
  simp only [List.all_eq_true, Bool.and_eq_true, decide_eq_true_eq] at hsmall
  have halnum : ∀ c ∈ ['p', 'o', 'r', 't', 'a', 'l'], isAlphanumeric c := fun c hc => by
    rw [Unicode.isAlphanumeric_of_lt (hsmall c hc).1.1]
    exact (hsmall c hc).2
  have hw : ∀ c ∈ ['p', 'o', 'r', 't'], isAlphanumeric c := fun c hc =>
    halnum c (List.mem_append_left ['a', 'l'] hc)
  have hs : ∀ c ∈ ['a', 'l'], isAlphanumeric c := fun c hc =>
    halnum c (List.mem_append_right ['p', 'o', 'r', 't'] hc)
  -- both words are their own normal forms
  have hsettled : Text.IsSettled ['p', 'o', 'r', 't', 'a', 'l'] :=
    Text.isSettled_of_lt fun c hc => ⟨(hsmall c hc).1.1, .inr (hsmall c hc).1.2⟩
  have hlong := hsettled.normalizeChars_eq halnum
  have hshort := (hsettled.of_part ⟨[], ['a', 'l'], rfl⟩).normalizeChars_eq hw
  have hkeeps : KeepsPrefix ['p', 'o', 'r', 't'] ['a', 'l'] := by
    refine (Text.normalizeChars_isPrefix_iff hw hs).mp ⟨['a', 'l'], ?_⟩
    rw [hshort]
    exact hlong.symm
  have hkey : Path.segments ⟨"name"⟩ = ["name"] := by decide
  obtain ⟨c, hparse, hmatched⟩ := matched_star_iff (p := ⟨"name"⟩) (by decide)
    (List.cons_ne_nil _ _) hw hs
  refine ⟨c, hparse, hmatched.mpr ⟨?_, ?_, hkeeps⟩ _ 0 _ (by decide) rfl ?_⟩
  · rw [hshort]
    exact Pattern.isSome_wildcard?_of_length_le (by decide)
  · exact fun hnil => List.cons_ne_nil _ _ (hlong.symm.trans hnil)
  · refine ⟨"old portal", ['o', 'l', 'd', ' '], [], resolve_singleton hkey _, rfl,
      List.cons_ne_nil _ _, halnum, ?_, ?_⟩
    · rintro c ⟨⟩
      exact Unicode.isAlphanumeric_of_lt (by decide)
    · rintro c ⟨⟩

/-- A sigma at the end of the beginning is final, and the one in the word is not. -/
theorem notMem_matched_star_sigma :
    ∃ c, Clause.parse "name:ΟΔΟΣ*" = .ok c ∧
      HasWord ⟨"name"⟩ (.object [("name", .string "ΟΔΟΣΑ")]) ['Ο', 'Δ', 'Ο', 'Σ', 'Α'] ∧
      0 ∉ matched c [.object [("name", .string "ΟΔΟΣΑ")]] := by
  have hletters : ['Ο', 'Δ', 'Ο', 'Σ', 'Α'].all isAlphanumeric ∧
      Text.letters ['Ο', 'Δ', 'Ο', 'Σ'] = ['Ο', 'Δ', 'Ο', 'Σ'] ∧
      Text.casedAfter false ['Ο', 'Δ', 'Ο'] ∧ Text.beginsCased (Text.letters ['Α']) := by
    decide +kernel
  obtain ⟨hall, hstart, hfront, hcased⟩ := hletters
  rw [List.all_eq_true] at hall
  have hw : ∀ c ∈ ['Ο', 'Δ', 'Ο', 'Σ'], isAlphanumeric c := fun c hc =>
    hall c (List.mem_append_left ['Α'] hc)
  have hs : ∀ c ∈ ['Α'], isAlphanumeric c := fun c hc =>
    hall c (List.mem_append_right ['Ο', 'Δ', 'Ο', 'Σ'] hc)
  have hp : Path.IsPlain ⟨"name"⟩ := by decide
  have hkey : Path.segments ⟨"name"⟩ = ["name"] := by decide
  have hvalue : Record.resolve (.object [("name", .string "ΟΔΟΣΑ")]) ⟨"name"⟩ =
      .string "ΟΔΟΣΑ" := resolve_singleton hkey _
  have htext : String.ofList ("name".toList ++ ':' :: (['Ο', 'Δ', 'Ο', 'Σ'] ++ ['*'])) =
      "name:ΟΔΟΣ*" := rfl
  refine ⟨_, (congrArg Clause.parse htext).symm.trans (parse_star hp hw), ?_, fun h => ?_⟩
  · refine ⟨"ΟΔΟΣΑ", [], [], hvalue, rfl, List.cons_ne_nil _ _, hall, ?_, ?_⟩
    · rintro c ⟨⟩
    · rintro c ⟨⟩
  · obtain ⟨-, -, -, hsigma⟩ :=
      (mem_matched_star_word hp (List.cons_ne_nil _ _) hw hs hvalue).mp h
    rw [hstart, hcased] at hsigma
    exact Bool.noConfusion (hsigma ⟨['Ο', 'Δ', 'Ο'], [], rfl, hfront, rfl⟩)

end star

end RegistrySearch
