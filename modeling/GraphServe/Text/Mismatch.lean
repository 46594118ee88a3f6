/-!
# Messages about values of the wrong type

The wording that all typed readers share.
-/

namespace GraphServe.Text

/-- A value of another type than expected. -/
def invalidType (found expected : String) : String :=
  "invalid type: " ++ found ++ ", expected " ++ expected

/-- A value of the expected type that is not allowed. -/
def invalidValue (found expected : String) : String :=
  "invalid value: " ++ found ++ ", expected " ++ expected

/-- A key that came before. -/
def duplicateField (key : String) : String := "duplicate field `" ++ key ++ "`"

/-- A key that is none of those known. -/
def unknownField (key : String) (known : List String) : String :=
  let quoted := known.map fun k => "`" ++ k ++ "`"
  "unknown field `" ++ key ++ "`, expected "
    ++ (match quoted with
      | [only]          => only
      | [first, second] => first ++ " or " ++ second
      | several         => "one of " ++ ", ".intercalate several)

/-- What a truth value is called. -/
def boolName (b : Bool) : String := "boolean `" ++ (if b then "true" else "false") ++ "`"

end GraphServe.Text
