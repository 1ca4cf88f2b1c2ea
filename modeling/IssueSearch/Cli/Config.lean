import IssueSearch.Record.Completion
import IssueSearch.Toml.Document

/-!
# The settings file

A project may keep a settings file, `.bugwatch/search.toml`, in its directory or
one above: recent queries, saved searches, counts of results, and the number of
results on a page.

* `Config`, `Config.ofJson?`, `Config.read?`: the settings;
* `Config.savedForProject`: the saved searches that are suggested;
* `Files`: access to files;
* `loadConfig`: the settings of a named file, or of the nearest one.
-/

namespace IssueSearch.Cli

/-- The settings of a project. -/
structure Config where
  /-- The project whose saved searches are suggested. -/
  projectId : Option String := none
  history : List String := []
  perPage : Option UInt32 := none
  facets : Option Facets := none
  savedSearches : List SavedSearch := []
  deriving Repr, DecidableEq, Inhabited

namespace Config

/-- A table of one optional slot. -/
def single? {α : Type} (name : String) (read : Json → Option α) (json : Json) :
    Option (Option α) := do
  let slots := [Slot.trailing name]
  let record ← Record.ofJson? slots (Record.trim slots json)
  record.optional? name read

/-- The counts of results. -/
def facets? (json : Json) : Option Facets :=
  Facets.ofJson? (Record.trim Facets.slots json)

/-- A saved search. -/
def savedSearch? (json : Json) : Option SavedSearch :=
  SavedSearch.ofJson? (Record.trim SavedSearch.slots json)

/-- The settings of the value of a file.  Where an array stands for a table, items
that no slot is left for are passed over. -/
def ofJson? (json : Json) : Option Config := do
  let slots := ["project", "history", "search", "facets", "saved_searches"]
  let record ← Record.ofJson? (slots.map .trailing) json
  let projectId ← record.defaulted? "project" none (single? "id" Json.string?)
  let history ← record.defaulted? "history" none (single? "entries" Json.strings?)
  let perPage ← record.defaulted? "search" none (single? "per_page" Json.uint32?)
  let facets ← record.optional? "facets" facets?
  let savedSearches ← record.defaulted? "saved_searches" [] (Json.list? savedSearch?)
  some { projectId, history := history.getD [], perPage, facets, savedSearches }

/-- The settings of the text of a file. -/
def read? (text : String) : Option Config :=
  (Toml.read? text).bind ofJson?

/-- The saved searches of the project, or all where no project is named. -/
def savedForProject (config : Config) : List SavedSearch :=
  match config.projectId with
  | some project => SavedSearch.ofProject project config.savedSearches
  | none => config.savedSearches

end Config

/-- Access to files. -/
structure Files (m : Type → Type) where
  /-- The working directory. -/
  directory : String
  /-- Whether a path leads to a file. -/
  isFile : String → m Bool
  /-- The text of a file that can be read. -/
  read : String → m (Option String)

/-- A directory and those above it, the nearest first. -/
def ancestors (directory : String) : List String :=
  let parts := directory.toList.splitOn '/'
  (List.range parts.length).map fun above =>
    String.ofList (List.intercalate ['/'] (parts.take (parts.length - above)))

/-- The settings file of a directory. -/
def configFile (directory : String) : String :=
  directory ++ "/.bugwatch/search.toml"

variable {m : Type → Type} [Monad m]

/-- The first path that leads to a file. -/
def firstFile (files : Files m) : List String → m (Option String)
  | [] => pure none
  | path :: rest => do
      if ← files.isFile path then pure (some path) else firstFile files rest

/-- The settings of a file, or what is wrong with it. -/
def readConfig (files : Files m) (path : String) : m (Except String Config) := do
  match ← files.read path with
  | none => pure (.error ("Failed to read " ++ path))
  | some text =>
      match Config.read? text with
      | none => pure (.error ("Failed to parse " ++ path))
      | some config => pure (.ok config)

/-- The settings of a named file or of the nearest one, with its path. -/
def loadConfig (files : Files m) (named : Option String) :
    m (Except String (Option String × Config)) := do
  let path ← match named with
    | some path => pure (some path)
    | none => firstFile files ((ancestors files.directory).map configFile)
  match path with
  | none => pure (.ok (none, {}))
  | some path => do
      match ← readConfig files path with
      | .error message => pure (.error message)
      | .ok config => pure (.ok (some path, config))

end IssueSearch.Cli
