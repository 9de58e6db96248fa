/-!
# Paths in the home directory

A leading `~` of a configured path stands for the home directory.  Joining
follows the rule of paths: an absolute second path replaces the first.
-/

namespace ChartQuery

/-- Join a path to a directory; an absolute path stands for itself. -/
def joinPath (directory : String) (path : List Char) : String :=
  match path with
  | '/' :: _ => String.ofList path
  | _ =>
      if directory.isEmpty ∨ directory.toList.getLast? = some '/' then
        directory ++ String.ofList path
      else directory ++ "/" ++ String.ofList path

/-- Replace a leading `~`; all other paths stay as they are. -/
def expandTilde (home path : String) : String :=
  match path.toList with
  | ['~'] => home
  | '~' :: '/' :: rest => joinPath home rest
  | _ => path

/-- The configuration file that is read when no other is given. -/
def defaultConfigPath (home : String) : String :=
  joinPath (joinPath home ".dashagg".toList) "config.toml".toList

end ChartQuery
