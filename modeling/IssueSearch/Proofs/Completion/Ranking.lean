import IssueSearch.Proofs.Completion.Offers
import IssueSearch.Proofs.Query.Effect

/-!
# Recent queries come last

The scores of recent queries start at 10.  Every suggestion for the word scores more, whatever
its source is, and there are at most nine of them: the cap of ten suggestions only concerns
recent queries.

* `take_falling`, `map_falling`, `pairwise_falling`, `bounds_of_mem_falling`: rows of
  suggestions;
* `IsBlock`: suggestions that stand in front of all recent queries;
* `isBlock_wordSuggestions`: the suggestions for a word are a block;
* `Continues`, `historyMatches_eq`: which entries of the history are suggested;
* `recentEntries`, `suggest_eq_append`: these entries, and the list with them at its end;
* `suggest_ranked`: the whole list.
-/

namespace IssueSearch.Completion

open Text (isBlank)

/-! ## Rows -/

section

variable {α : Type} {items : List α} {top : Nat} {make : α → Score → Suggestion}
  {suggestion : Suggestion}

theorem length_falling : (falling items top make).length = items.length := by
  simp [falling]

/-- A row starts with a row of its first items. -/
theorem take_falling (count : Nat) :
    (falling items top make).take count = falling (items.take count) top make := by
  have hindexed : items.zipIdx.take count = (items.take count).zipIdx := by
    apply List.ext_getElem?
    intro index
    simp only [List.getElem?_take, List.getElem?_zipIdx]
    split <;> rfl
  rw [falling, ← List.map_take, hindexed]
  rfl

/-- What does not depend on the scores of a row can be read off its items. -/
theorem map_falling_eq_map {β : Type} {read : Suggestion → β} {f : α → β}
    (hread : ∀ item score, read (make item score) = f item) :
    (falling items top make).map read = items.map f := by
  calc (falling items top make).map read
      = items.zipIdx.map (f ∘ Prod.fst) := by
        rw [falling, List.map_map]
        exact List.map_congr_left fun pair _ => hread pair.1 _
    _ = items.map f := by rw [← List.map_map, List.zipIdx_map_fst]

/-- The items of a row can be read off its suggestions. -/
theorem map_falling {read : Suggestion → α} (hread : ∀ item score, read (make item score) = item) :
    (falling items top make).map read = items :=
  (map_falling_eq_map hread).trans (List.map_id' items)

/-- The scores of a row fall. -/
theorem pairwise_falling (hscore : ∀ item score, (make item score).score = score) :
    (falling items top make).Pairwise fun a b => b.score < a.score := by
  have hindices : (items.zipIdx.map Prod.snd).Pairwise (· < ·) := by
    rw [List.zipIdx_map_snd]
    exact List.pairwise_lt_range'
  rw [falling, List.pairwise_map]
  refine (List.pairwise_map.mp hindices).imp fun {a b} hlt => ?_
  rw [hscore, hscore]
  have hcast : (a.2 : Rat) < (b.2 : Rat) := by exact_mod_cast hlt
  linarith

/-- The scores of a row are the highest one and those below it, one for each item. -/
theorem bounds_of_mem_falling {count : Nat} (hcount : items.length ≤ count)
    (hscore : ∀ item score, (make item score).score = score)
    (h : suggestion ∈ falling items top make) :
    (top : Rat) - (count : Rat) < suggestion.score ∧ suggestion.score ≤ (top : Rat) := by
  obtain ⟨⟨item, index⟩, hmem, rfl⟩ := List.mem_map.mp h
  have hindex : index < count := by
    have hlt := List.snd_lt_of_mem_zipIdx hmem
    omega
  have hcast : (index : Rat) < (count : Rat) := by exact_mod_cast hindex
  have hnonneg : (0 : Rat) ≤ (index : Rat) := Nat.cast_nonneg index
  rw [hscore]
  constructor <;> linarith

end

/-! ## Blocks -/

/-- A suggestion in front of all recent queries: it is none, and its score is higher than
all of theirs. -/
structure IsLeading (suggestion : Suggestion) : Prop where
  kind_ne : suggestion.kind ≠ .history
  lt_score : 10 < suggestion.score

/-- Suggestions that all fit in front of the recent queries. -/
structure IsBlock (suggestions : List Suggestion) : Prop where
  length_le : suggestions.length ≤ 9
  leading : ∀ suggestion ∈ suggestions, IsLeading suggestion

/-- A row is a block if it is short and starts high enough. -/
theorem isBlock_falling {α : Type} {items : List α} {top : Nat} {make : α → Score → Suggestion}
    (kind : SuggestionKind) (hkind : kind ≠ .history)
    (hmake : ∀ item score, (make item score).kind = kind ∧ (make item score).score = score)
    (hlength : items.length ≤ 9) (htop : 19 ≤ top) : IsBlock (falling items top make) := by
  refine ⟨by rwa [length_falling], fun suggestion h => ⟨?_, ?_⟩⟩
  · obtain ⟨item, _, score, rfl⟩ := exists_of_mem_falling h
    rw [(hmake item score).1]
    exact hkind
  · have hlow := (bounds_of_mem_falling hlength (fun item score => (hmake item score).2) h).1
    have hcast : (19 : Rat) ≤ (top : Rat) := by exact_mod_cast htop
    push_cast at hlow
    linarith

/-- No more items start with what has been typed than there are. -/
theorem length_startingWith_le {α : Type} (partialValue : List Char) (text : α → String)
    (items : List α) : (startingWith partialValue text items).length ≤ items.length :=
  List.length_filter_le _ _

/-- The presets are a block. -/
theorem isBlock_presets (schema : Schema) (query : String) : IsBlock (presets schema query) := by
  have hpreset : ∀ filter description score, (10 : Rat) < score →
      IsLeading (preset filter description score) := fun _ _ _ hscore => ⟨nofun, hscore⟩
  constructor
  · unfold presets
    dsimp only
    split_ifs <;> simp
  · intro suggestion h
    simp only [presets, List.mem_append, List.mem_ite_nil_left, List.mem_singleton] at h
    rcases h with (⟨_, rfl⟩ | ⟨_, rfl⟩) | rfl
    · exact hpreset _ _ _ (by norm_num)
    · exact hpreset _ _ _ (by norm_num)
    · exact hpreset _ _ _ (by norm_num)

/-- The values of a date are a block: the shortcuts, and two operators. -/
theorem isBlock_dateValues (filter : FilterInProgress) : IsBlock (dateValues filter) := by
  have hlength : (startingWith filter.partialValue Prod.fst dateShortcuts).length ≤ 5 :=
    length_startingWith_le _ _ dateShortcuts
  have hshortcuts : ∀ make : String × String → Score → Suggestion,
      (∀ item score, (make item score).kind = .value ∧ (make item score).score = score) →
      IsBlock (falling (startingWith filter.partialValue Prod.fst dateShortcuts) 50 make) ∧
        (falling (startingWith filter.partialValue Prod.fst dateShortcuts) 50 make).length ≤ 5 := by
    intro make hmake
    rw [length_falling]
    exact ⟨isBlock_falling .value (by decide) hmake (by omega) (by omega), hlength⟩
  obtain ⟨row, ⟨hrow, hshort⟩, hcases⟩ : ∃ row, (IsBlock row ∧ row.length ≤ 5) ∧
      (dateValues filter = row ∨ dateValues filter =
        row ++ [operatorStub filter ">" "After a date" 40,
          operatorStub filter "<" "Before a date" 39]) := by
    unfold dateValues
    dsimp only
    split
    · exact ⟨_, hshortcuts _ fun _ _ => ⟨rfl, rfl⟩, Or.inr rfl⟩
    · exact ⟨_, hshortcuts _ fun _ _ => ⟨rfl, rfl⟩, Or.inl rfl⟩
  rcases hcases with heq | heq
  · rwa [heq]
  · rw [heq]
    constructor
    · simp only [List.length_append, List.length_cons, List.length_nil]
      omega
    · intro suggestion h
      simp only [List.mem_append, List.mem_cons, List.not_mem_nil, or_false] at h
      rcases h with h | rfl | rfl
      · exact hrow.leading suggestion h
      · exact ⟨nofun, show (10 : Rat) < 40 by norm_num⟩
      · exact ⟨nofun, show (10 : Rat) < 39 by norm_num⟩

/-! ## Suggested fields -/

section

variable {schema : Schema} {query : String} {word : List Char}

/-- There are no more suggested fields than fields, with one place for the sort order. -/
theorem length_fieldSuggestions_le :
    (fieldSuggestions schema word query).length ≤ schema.fields.length + 1 := by
  have hall : (headings schema).length = schema.fields.length + 1 := by
    simp [headings]
  rw [fieldSuggestions_eq, List.length_map, ← hall]
  exact List.length_filter_le _ _

/-- A suggested field leads: a name that scores at all scores at least 20. -/
theorem isLeading_of_mem_fieldSuggestions {suggestion : Suggestion}
    (h : suggestion ∈ fieldSuggestions schema word query) : IsLeading suggestion := by
  rw [fieldSuggestions_eq] at h
  obtain ⟨heading, hmem, rfl⟩ := List.mem_map.mp h
  have hpos := (mem_remaining_iff.mp hmem).2.2
  obtain ⟨name, _, hscore⟩ := (isBest_score (needleOf word) heading).1
  refine ⟨by simp, ?_⟩
  rw [Heading.score_suggestion, ← hscore]
  rcases matchScore_eq_zero_or_le name.toList (needleOf word) with hzero | hle
  · rw [← hscore, hzero] at hpos
    exact absurd hpos (lt_irrefl 0)
  · linarith

end

/-! ## The block of a word -/

/-- A table whose suggestions always fit in front of the recent queries. -/
structure IsShort (schema : Schema) : Prop where
  fields_le : schema.fields.length ≤ 8
  values_le : ∀ field ∈ schema.fields, field.values.length ≤ 9

theorem isShort_standard : IsShort .standard :=
  ⟨by decide, by decide⟩

section

variable {schema : Schema} (hshort : IsShort schema) {word : List Char} {facets : Option Facets}
include hshort

/-- The suggestions for a filter are a block. -/
theorem isBlock_of_valueSuggestions? {filter : FilterInProgress} {suggestions : List Suggestion}
    (hfilter : FilterInProgress.read? word = some filter)
    (hsome : valueSuggestions? schema filter facets = some suggestions) :
    IsBlock suggestions := by
  rcases valueSuggestions_cases hfilter hsome with ⟨_, rfl⟩ | ⟨field, hon, hcases⟩
  · have hlength : (startingWith filter.partialValue id sortableFields).length ≤ 4 :=
      length_startingWith_le _ _ sortableFields
    exact isBlock_falling .value (by decide) (fun _ _ => ⟨rfl, rfl⟩) (by omega) (by omega)
  · rcases hcases with ⟨_, rfl⟩ | ⟨_, rfl⟩ | ⟨_, rfl⟩ | ⟨_, rfl⟩
    · have hvalues := hshort.values_le field (mem_of_lookup hon.2.2)
      have hlength := length_startingWith_le filter.partialValue id field.values
      unfold enumValues
      exact isBlock_falling .value (by decide) (fun _ _ => ⟨rfl, rfl⟩) (by omega) (by omega)
    · exact isBlock_dateValues filter
    · unfold numberStubs
      split
      · refine isBlock_falling .operator (by decide) (fun _ _ => ⟨rfl, rfl⟩) ?_ (by omega)
        exact Nat.le_trans (List.length_filter_le _ numberOperators) (by decide)
      · exact ⟨Nat.zero_le 9, nofun⟩
    · exact ⟨Nat.zero_le 9, nofun⟩

/-- The suggestions for a word are a block. -/
theorem isBlock_wordSuggestions (query : String) (word : List Char) (facets : Option Facets) :
    IsBlock (wordSuggestions schema query word facets) := by
  rcases wordSuggestions_cases schema query word facets with ⟨filter, hfilter, hsome⟩ |
    ⟨_, heq | heq⟩
  · exact isBlock_of_valueSuggestions? hshort hfilter hsome
  · rw [heq]
    exact isBlock_presets schema query
  · rw [heq]
    have hlength : (fieldSuggestions schema word query).length ≤ schema.fields.length + 1 :=
      length_fieldSuggestions_le
    have hfields := hshort.fields_le
    exact ⟨by omega, fun suggestion h => isLeading_of_mem_fieldSuggestions h⟩

end

/-! ## Ranking -/

/-- Ranking only changes the order. -/
theorem rank_perm (suggestions : List Suggestion) : (rank suggestions).Perm suggestions :=
  List.mergeSort_perm _ _

/-- Ranked suggestions stand by falling score. -/
theorem pairwise_rank (suggestions : List Suggestion) :
    (rank suggestions).Pairwise fun a b => b.score ≤ a.score :=
  pairwise_mergeSort_byScore Suggestion.score suggestions

/-- Ranking does not change what stands by falling score. -/
theorem rank_of_pairwise {suggestions : List Suggestion}
    (h : suggestions.Pairwise fun a b => b.score < a.score) : rank suggestions = suggestions :=
  List.mergeSort_of_pairwise (h.imp fun hlt => decide_eq_true (le_of_lt hlt))

/-! ## Recent queries -/

/-- An entry of the history that goes on with the query: it is another one, it contains what
has been typed in any letter case, and it has not been suggested for the word. -/
def Continues (query : String) (block : List Suggestion) (entry : String) : Prop :=
  Text.trim entry.toList ≠ Text.trim query.toList ∧
    Text.lowercase (Text.trim query.toList) <:+: Text.lowercase entry.toList ∧
    ∀ suggestion ∈ block, suggestion.value ≠ entry

instance (query : String) (block : List Suggestion) : DecidablePred (Continues query block) :=
  fun _ => inferInstanceAs (Decidable (_ ∧ _ ∧ _))

/-- The first entries that go on with the query are suggested. -/
theorem historyMatches_eq (query : String) (history : List String) (block : List Suggestion) :
    historyMatches query history block =
      falling ((history.filter fun entry => decide (Continues query block entry)).take 3) 10
        historySuggestion := by
  have htest : ∀ entry : String,
      (Text.trim entry.toList != Text.trim query.toList &&
        occursIn (Text.lowercase (Text.trim query.toList)) (Text.lowercase entry.toList) &&
        !block.any (·.value == entry)) = decide (Continues query block entry) := by
    intro entry
    rw [Bool.eq_iff_iff, decide_eq_true_eq]
    simp [Continues, occursIn_iff, and_assoc]
  simp only [historyMatches, htest]

/-- The entries of the history that are suggested behind a block: the first three that go on
with the query, or as many as there are places left of ten. -/
def recentEntries (query : String) (history : List String) (block : List Suggestion) :
    List String :=
  (history.filter fun entry => decide (Continues query block entry)).take
    (min 3 (10 - block.length))

/-- Recent queries stand behind the ranked suggestions for the word under the cursor. -/
theorem suggest_eq_append {schema : Schema} (hshort : IsShort schema) (query : String)
    (cursor : Nat) (history : List String) (saved : List SavedSearch) (facets : Option Facets)
    (hquery : ∃ c ∈ query.toList, isBlank c = false) :
    let block := wordSuggestions schema query (wordBefore query.toList cursor) facets
    suggest schema query cursor history saved facets =
      rank block ++ falling (recentEntries query history block) 10 historySuggestion := by
  intro block
  have hlength : (rank block).length = block.length := (rank_perm block).length_eq
  have hfit : (rank block).take 10 = rank block := by
    refine List.take_of_length_le ?_
    rw [hlength]
    exact Nat.le_succ_of_le (isBlock_wordSuggestions hshort query _ facets).length_le
  have hcontinues : ∀ entry, Continues query (rank block) entry ↔ Continues query block entry :=
    fun entry => by simp only [Continues, mem_rank]
  rw [suggest_of_solid cursor history saved hquery, maxSuggestions, List.take_append, hfit,
    historyMatches_eq, take_falling, List.take_take, hlength, Nat.min_comm]
  simp only [hcontinues, recentEntries, block]

/-- A suggested entry of the history goes on with the query. -/
theorem continues_of_mem_recentEntries {query : String} {history : List String}
    {block : List Suggestion} {entry : String} (h : entry ∈ recentEntries query history block) :
    Continues query block entry :=
  of_decide_eq_true (List.mem_filter.mp (List.mem_of_mem_take h)).2

/-- Recent queries are suggested behind the suggestions for the word, by falling score. -/
structure IsRanked (block recent : List Suggestion) : Prop where
  kind_block : ∀ suggestion ∈ block, suggestion.kind ≠ .history
  kind_recent : ∀ suggestion ∈ recent, suggestion.kind = .history
  falling : (block ++ recent).Pairwise fun a b => b.score ≤ a.score
  below : ∀ suggestion ∈ block, ∀ other ∈ recent, other.score < suggestion.score

/-- Any recent queries may stand behind a block. -/
theorem isRanked_of_isBlock {block : List Suggestion} (hblock : IsBlock block)
    (hsorted : block.Pairwise fun a b => b.score ≤ a.score) (entries : List String) :
    IsRanked block (falling entries 10 historySuggestion) := by
  have hscore : ∀ other ∈ falling entries 10 historySuggestion, other.score ≤ 10 :=
    fun other hother => (bounds_of_mem_falling le_rfl (fun _ _ => rfl) hother).2
  have hbelow : ∀ suggestion ∈ block, ∀ other ∈ falling entries 10 historySuggestion,
      other.score < suggestion.score := fun suggestion hmem other hother =>
    lt_of_le_of_lt (hscore other hother) (hblock.leading suggestion hmem).lt_score
  refine ⟨fun suggestion hmem => (hblock.leading suggestion hmem).kind_ne, ?_, ?_, hbelow⟩
  · intro other hother
    obtain ⟨_, _, _, rfl⟩ := exists_of_mem_falling hother
    rfl
  · refine List.pairwise_append.mpr ⟨hsorted, ?_, fun suggestion hmem other hother =>
      le_of_lt (hbelow suggestion hmem other hother)⟩
    exact (pairwise_falling fun _ _ => rfl).imp le_of_lt

/-- The suggestions for a query that is not blank are all those for the word under the cursor,
at most nine, and behind them recent queries: the first three that go on with the query, or as
many as there are places left of ten. -/
theorem suggest_ranked (query : String) (cursor : Nat) (history : List String)
    (saved : List SavedSearch) (facets : Option Facets)
    (hquery : ∃ c ∈ query.toList, isBlank c = false) :
    let word := wordBefore query.toList cursor
    ∃ block recent, suggest .standard query cursor history saved facets = block ++ recent ∧
      block.Perm (wordSuggestions .standard query word facets) ∧ block.length ≤ 9 ∧
      IsRanked block recent ∧
      recent.map (·.value) =
        (history.filter fun entry => decide (Continues query block entry)).take
          (min 3 (10 - block.length)) := by
  intro word
  have hblock := isBlock_wordSuggestions isShort_standard query word facets
  generalize hlist : wordSuggestions .standard query word facets = suggestions at hblock
  have hperm := rank_perm suggestions
  have hranked : IsBlock (rank suggestions) :=
    ⟨hperm.length_eq ▸ hblock.length_le, fun suggestion hmem =>
      hblock.leading suggestion (hperm.mem_iff.mp hmem)⟩
  have hfit : (rank suggestions).take 10 = rank suggestions :=
    List.take_of_length_le (Nat.le_succ_of_le hranked.length_le)
  rw [suggest_of_solid cursor history saved hquery, hlist, maxSuggestions, List.take_append, hfit,
    historyMatches_eq, take_falling, List.take_take]
  refine ⟨_, _, rfl, hperm, hranked.length_le,
    isRanked_of_isBlock hranked (pairwise_rank suggestions) _, ?_⟩
  rw [map_falling fun _ _ => rfl, Nat.min_comm]

/-- A level that is being typed, with entries of the history that are the query itself, that
have been suggested, and that do not fit. -/
theorem suggest_ranked_level :
    let query := " level:e "
    let history := ["LEVEL:E crash", "level:e", "level:error", "a level:e b", "is:resolved",
      "Level:E", "level:ee"]
    let word := wordBefore query.toList 8
    (∃ c ∈ query.toList, isBlank c = false) ∧
      (suggest .standard query 8 history [] none).map (·.value) =
        ["level:error", "LEVEL:E crash", "a level:e b", "Level:E"] ∧
      ∃ block recent, suggest .standard query 8 history [] none = block ++ recent ∧
        block.Perm (wordSuggestions .standard query word none) ∧ block.length ≤ 9 ∧
        IsRanked block recent ∧
        recent.map (·.value) =
          (history.filter fun entry => decide (Continues query block entry)).take
            (min 3 (10 - block.length)) := by
  intro query history word
  have hquery : ∃ c ∈ query.toList, isBlank c = false := ⟨'l', by decide, by decide⟩
  exact ⟨hquery, by decide +kernel, suggest_ranked query 8 history [] none hquery⟩

end IssueSearch.Completion
