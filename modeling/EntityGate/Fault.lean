/-
# Faults

Everything that can go wrong with a request, as causes.  The text of a fault, its code, its
HTTP status and the details sent along with it are functions of the cause.
-/
import EntityGate.Json.Compact
import EntityGate.Text.CharClass

namespace EntityGate

/-- What is wrong with a configuration value. -/
inductive ConfigProblem where
  /-- Its shape is refused. -/
  | shape
  /-- A placeholder takes a name kept for generated parameters. -/
  | reservedName
  /-- A required text resolved to `null`. -/
  | resolvedToNull
  /-- The first argument of a base condition is not a field. -/
  | fieldExpected
  /-- A base order is neither ascending nor descending. -/
  | notADirection (text : String)

/-- The text of a configuration problem. -/
def ConfigProblem.message : ConfigProblem → String
  | shape => "<library text>"
  | reservedName => "name is reserved for generated parameters"
  | resolvedToNull => "value resolved to null"
  | fieldExpected => "first argument must be a field"
  | notADirection text => "'" ++ text ++ "' is not ASC or DESC"

/-- What is wrong with the params of a request. -/
inductive ParamsProblem where
  /-- The shape of a nested condition is refused. -/
  | nestedCondition
  /-- The value under a key is no JSON list of conditions. -/
  | conditionsExpected (key : String)
  /-- An option has a value of the wrong shape. -/
  | invalidOption
  /-- Params that hold no entries for the chain. -/
  | unexpectedParams (chain : String) (value : Json)
  /-- An entry to create that is no object. -/
  | createEntry (value : Json)
  /-- Simplified params to create that hold something other than objects. -/
  | createEntries
  /-- An entry under an id that is no object. -/
  | entryUnderId (id : String) (value : Json)
  /-- An entry that is neither an object nor an id. -/
  | invalidEntry (chain : String) (value : Json)
  /-- An entry that lacks its id. -/
  | missingId (chain : String)
  /-- A chain entry that lacks its id. -/
  | missingChainId (chain : String)
  /-- An entry of a chain that names no entity. -/
  | unidentified (chain entityType : String)
  /-- A chain that is no mutation. -/
  | notAMutation (chain : String)
  /-- A chain entry that led to no record. -/
  | noRecord (chain entityType : String)
  /-- A relation value that is no chain request. -/
  | chainExpected (relation : String)
  /-- Simplified params that are no object. -/
  | simplifiedParams (value : Json)
  /-- An item of a relation that is neither an object nor an id. -/
  | relationEntry (value : Json)

/-- The text of a params problem. -/
def ParamsProblem.message : ParamsProblem → String
  | nestedCondition => "<library text>"
  | conditionsExpected key => "'" ++ key ++ "' must hold JSON conditions: <library text>"
  | invalidOption => "invalid option: <library text>"
  | unexpectedParams chain v => "unexpected " ++ chain ++ " params " ++ v.compact
  | createEntry v => "create entries must be objects, got " ++ v.compact
  | createEntries => "create entries must be objects"
  | entryUnderId id v => "entry '" ++ id ++ "' must be an object, got " ++ v.compact
  | invalidEntry chain v => "invalid " ++ chain ++ " entry " ++ v.compact
  | missingId chain => chain ++ " entries need an id"
  | missingChainId chain => chain ++ " chain needs an id"
  | unidentified chain e => chain ++ " on '" ++ e ++ "' needs an id"
  | notAMutation chain => "'" ++ chain ++ "' is not a mutation"
  | noRecord chain e => chain ++ " on '" ++ e ++ "' produced no record"
  | chainExpected relation => "relation '" ++ relation ++ "' expects a chain request"
  | simplifiedParams v => "simplified params must be objects, got " ++ v.compact
  | relationEntry v => "invalid relation entry " ++ v.compact

/-- Why a request fails. -/
inductive Fault where
  -- configuration
  | missingCollaborator (collaborator : String)
  | unknownEntityType (entityType : String)
  | unreadableConfiguration
  | invalidConfiguration (path : String) (problem : ConfigProblem)
  -- evaluation of settings
  | unknownCallable (name : String)
  | callFailed (name message : String)
  | typeMismatch (setting expected : String) (actual : Json)
  -- permissions
  | actionNotAllowed (entityType action : String)
  | operatorNotAllowed (field operator : String)
  | orderByNotAllowed (field direction : String)
  | groupByNotAllowed (field : String)
  | placeholderNotAllowed (name : String)
  | fieldNotAllowed (entityType field : String)
  | assignTypeNotAllowed (field assignType : String)
  | chainTypeNotAllowed (field chainType : String)
  | closureVeto (field : String)
  -- requests
  | malformedField (field : String)
  | unsafeOperator (operator : String)
  | invalidArguments (operator expected : String) (actual : Nat)
  | invalidDirection (field direction : String)
  | unknownAssignType (assignType : String)
  | unknownChainType (chainType : String)
  | invalidParams (problem : ParamsProblem)
  | entityNotFound (entityType id : String)
  -- limits
  | limitExceeded (limit maxLimit : Nat)
  | batchTooLarge (size batchMax : Nat)
  | tooManyParams (count max : Nat)
  -- values
  | enforcementViolation (field : String) (expected actual : Json)
  | validationFailed (entityType : String) (messages : List String)
  -- collaborators
  | execution (message : String)
  /-- Chain requests that nest more deeply than they are followed. -/
  | nestedTooDeeply

namespace Fault

/-- The text of a fault. -/
def message : Fault → String
  | missingCollaborator c => "Missing required collaborator: " ++ c
  | unknownEntityType e => "No configuration registered for entity type '" ++ e ++ "'"
  | unreadableConfiguration => "Failed to parse configuration: <library text>"
  | invalidConfiguration path problem =>
    "Invalid configuration at '" ++ path ++ "': " ++ problem.message
  | unknownCallable name =>
    "Unknown callable '" ++ name ++ "' referenced by configuration expression"
  | callFailed name text => "Callable '" ++ name ++ "' failed: " ++ text
  | typeMismatch setting expected actual =>
    "Expected " ++ expected ++ " for '" ++ setting ++ "', got " ++ actual.compact
  | actionNotAllowed e action => "Action '" ++ action ++ "' is not allowed on '" ++ e ++ "'"
  | operatorNotAllowed field operator =>
    "Operator not allowed. field = " ++ field ++ ", operator = " ++ operator
  | orderByNotAllowed field direction =>
    "Order by not allowed. field = " ++ field ++ ", direction = " ++ direction
  | groupByNotAllowed field => "Group by not allowed. field = " ++ field
  | placeholderNotAllowed name => "Placeholder not allowed. placeholder = " ++ name
  | fieldNotAllowed e field => "Field '" ++ field ++ "' may not be set on '" ++ e ++ "'"
  | assignTypeNotAllowed field t =>
    "Assign type not permitted. assignType = " ++ t ++ ", field = " ++ field
  | chainTypeNotAllowed field t =>
    "Chain type not permitted. chainType = " ++ t ++ ", relation = " ++ field
  | closureVeto field => "A validation closure did not pass. field = " ++ field
  | malformedField field =>
    "Fields must be passed as [table alias].[field name]. field = " ++ field
  | unsafeOperator operator =>
    "Requested operator is not safe to use. operator = " ++ operator
  | invalidArguments operator expected actual =>
    "Operator '" ++ operator ++ "' expects " ++ expected ++ " argument(s), got " ++
      toString actual
  | invalidDirection field direction =>
    "Invalid order direction '" ++ direction ++ "' for field " ++ field
  | unknownAssignType t => "Unknown assign type. assignType = " ++ t
  | unknownChainType t => "Unknown chain type. chainType = " ++ t
  | invalidParams problem => "Invalid params: " ++ problem.message
  | entityNotFound e id => e ++ " with id '" ++ id ++ "' not found"
  | limitExceeded limit maxLimit =>
    "Requested limit greater than max. limit = " ++ toString limit ++ ", max = " ++
      toString maxLimit
  | batchTooLarge size batchMax =>
    "Batch too large. size = " ++ toString size ++ ", max = " ++ toString batchMax
  | tooManyParams count max =>
    "Too many query params. count = " ++ toString count ++ ", max = " ++ toString max
  | enforcementViolation field _ _ =>
    "A field is not set to it's enforced value. field = " ++ field
  | validationFailed e messages =>
    "Validation failed on '" ++ e ++ "': " ++ ", ".intercalate messages
  | execution text => "Execution failed: " ++ text
  | nestedTooDeeply => "Execution failed: chain requests are nested too deeply"

/-- The code of a fault. -/
def code : Fault → String
  | missingCollaborator _ | unknownEntityType _ | unreadableConfiguration
  | invalidConfiguration .. => "CONFIGURATION_ERROR"
  | unknownCallable _ | callFailed .. | typeMismatch .. => "EXPRESSION_EVALUATION_ERROR"
  | actionNotAllowed .. => "ACTION_NOT_ALLOWED"
  | operatorNotAllowed .. => "OPERATOR_NOT_ALLOWED"
  | orderByNotAllowed .. => "ORDER_BY_NOT_ALLOWED"
  | groupByNotAllowed _ => "GROUP_BY_NOT_ALLOWED"
  | placeholderNotAllowed _ => "PLACEHOLDER_NOT_ALLOWED"
  | fieldNotAllowed .. => "FIELD_NOT_ALLOWED"
  | assignTypeNotAllowed .. => "ASSIGN_TYPE_NOT_ALLOWED"
  | chainTypeNotAllowed .. => "CHAIN_TYPE_NOT_ALLOWED"
  | closureVeto _ => "CLOSURE_VETO"
  | malformedField _ => "MALFORMED_FIELD"
  | unsafeOperator _ => "UNSAFE_OPERATOR"
  | invalidArguments .. => "INVALID_ARGUMENTS"
  | invalidDirection .. => "INVALID_DIRECTION"
  | unknownAssignType _ => "UNKNOWN_ASSIGN_TYPE"
  | unknownChainType _ => "UNKNOWN_CHAIN_TYPE"
  | invalidParams _ => "INVALID_PARAMS"
  | entityNotFound .. => "ENTITY_NOT_FOUND"
  | limitExceeded .. => "LIMIT_EXCEEDED"
  | batchTooLarge .. => "BATCH_TOO_LARGE"
  | tooManyParams .. => "TOO_MANY_PARAMS"
  | enforcementViolation .. => "ENFORCEMENT_VIOLATION"
  | validationFailed .. => "VALIDATION_FAILED"
  | execution _ | nestedTooDeeply => "EXECUTION_ERROR"

/-- The HTTP status of a fault. -/
def status : Fault → Nat
  | missingCollaborator _ | unknownEntityType _ | unreadableConfiguration
  | invalidConfiguration .. | unknownCallable _ | callFailed .. | typeMismatch ..
  | execution _ | nestedTooDeeply => 500
  | actionNotAllowed .. | operatorNotAllowed .. | orderByNotAllowed .. | groupByNotAllowed _
  | placeholderNotAllowed _ | fieldNotAllowed .. | assignTypeNotAllowed ..
  | chainTypeNotAllowed .. | closureVeto _ => 403
  | entityNotFound .. => 404
  | malformedField _ | unsafeOperator _ | invalidArguments .. | invalidDirection ..
  | unknownAssignType _ | unknownChainType _ | invalidParams _ | limitExceeded ..
  | batchTooLarge .. | tooManyParams .. | enforcementViolation .. => 400
  | validationFailed .. => 422

/-- The details sent along with a fault, if it has any. -/
def details? : Fault → Option Json
  | operatorNotAllowed field operator =>
    some (.ofFields [("field", .str field), ("operator", .str operator)])
  | orderByNotAllowed field direction =>
    some (.ofFields [("field", .str field), ("direction", .str direction)])
  | closureVeto field | malformedField field => some (.ofFields [("field", .str field)])
  | unsafeOperator operator => some (.ofFields [("operator", .str operator)])
  | limitExceeded limit maxLimit =>
    some (.ofFields [("limit", .nat limit), ("max_limit", .nat maxLimit)])
  | batchTooLarge size batchMax =>
    some (.ofFields [("size", .nat size), ("batch_max", .nat batchMax)])
  | enforcementViolation field expected actual =>
    some (.ofFields [("field", .str field), ("expected", expected), ("actual", actual)])
  | validationFailed entityType messages =>
    some (.ofFields
      [("entity_type", .str entityType), ("messages", .arr (messages.map .str))])
  | _ => none

/-- The answer that reports a fault. -/
def response (fault : Fault) : Json :=
  .ofFields ([("error", .str fault.code), ("message", .str fault.message),
    ("status", .nat fault.status)] ++
    (match fault.details? with | some d => [("details", d)] | none => []))

end Fault

end EntityGate
