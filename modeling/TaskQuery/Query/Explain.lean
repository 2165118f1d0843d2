import TaskQuery.Query.Basic

set_option autoImplicit false

namespace TaskQuery

def Filter.account (filter : Filter) : Text :=
  if filter.explanation.text = filter.line then filter.line
  else filter.line ++ " =>\n" ++ filter.explanation.render "  "

def Sorter.account (sorter : Sorter) : Text :=
  "sort by " ++ sorter.property ++ if sorter.reverse then Text.ofString " reverse" else []

def Grouper.account (grouper : Grouper) : Text :=
  "group by " ++ grouper.property

def unfiltered : Text := "No filters supplied. All tasks will match the query."

def Query.accounts (query : Query) : List Text :=
  (if query.filters.isEmpty then [unfiltered] else query.filters.map Filter.account) ++
    query.sorters.map Sorter.account ++ query.groupers.map Grouper.account

def Query.explain (query : Query) : Text :=
  Text.join "\n\n" query.accounts

end TaskQuery
