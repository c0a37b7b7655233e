/-!
# Errors of the model

The ways in which a request about tables, fields or names can fail, and their messages.
-/

namespace Fieldbook

inductive ModelError where
  | tableNotFound (id : String)
  | duplicateTable (id : String)
  | fieldNotFound (name : String)
  | unknownAggregation (name : String)
  | unknownSortDirection (name : String)
deriving DecidableEq

def ModelError.message : ModelError → String
  | tableNotFound id => "Table not found: " ++ id
  | duplicateTable id => "Table id already exists: " ++ id
  | fieldNotFound name => "Field not found: " ++ name
  | unknownAggregation name => "Unknown aggregation: " ++ name
  | unknownSortDirection name => "Unknown sort direction: " ++ name

end Fieldbook
