/-!
# Usage errors

What can be wrong with a command line, or with what it refers to, before any work is done.
-/

set_option autoImplicit false

namespace SqlTables.Command

/-- Why a command line cannot be followed. -/
inductive UsageError where
  | unknownOption (name : String)
  /-- An option stands at the end without its value. -/
  | missingValue (option : String)
  /-- A value is attached to an option that takes none. -/
  | unexpectedValue (option : String)
  | missingCommand
  | unknownCommand (name : String)
  | missingArgument (name : String)
  | extraArguments (arguments : List String)
  /-- An option needs a path that leads somewhere. -/
  | pathNotFound (option path : String)
  /-- An option needs the path of a file. -/
  | pathIsDirectory (option path : String)
  /-- An option needs the path of a directory. -/
  | pathIsFile (option path : String)
  /-- What an option or a setting names has no meaning. -/
  | badValue (option message : String)
deriving DecidableEq, Repr

/-- The wording of a usage error. -/
def UsageError.message : UsageError → String
  | unknownOption name => "No such option: " ++ name
  | missingValue option => "Option '" ++ option ++ "' requires an argument."
  | unexpectedValue option => "Option '" ++ option ++ "' does not take a value."
  | missingCommand => "Missing command."
  | unknownCommand name => "No such command '" ++ name ++ "'."
  | missingArgument name => "Missing argument '" ++ name ++ "'."
  | extraArguments arguments => "Got unexpected extra arguments: " ++ " ".intercalate arguments
  | pathNotFound option path => "Invalid value for '" ++ option ++ "': '" ++ path ++ "' does not exist."
  | pathIsDirectory option path =>
    "Invalid value for '" ++ option ++ "': '" ++ path ++ "' is a directory."
  | pathIsFile option path => "Invalid value for '" ++ option ++ "': '" ++ path ++ "' is a file."
  | badValue option text => "Invalid value for " ++ option ++ ": " ++ text

end SqlTables.Command
