set_option autoImplicit false

/-! # Taxonomy of failures

A server names a failure with a code. Every code belongs to one kind and every kind to one
category; a category has a kind of its own for failures that are told from the status alone. -/

namespace SearchClient.Failure

/-- The broadest classification. -/
inductive Category where
  | validation
  | notFound
  | cluster
  | authorization
  | conflict
  | internal
  | unknown
deriving DecidableEq, Repr

/-- A concrete variant of failure. -/
inductive Kind where
  | validation
  | missingParameter
  | invalidParameter
  | invalidRequestBody
  | conflictingParameters
  | invalidFormat
  | parseError
  | notFound
  | indexNotFound
  | documentNotFound
  | cluster
  | notLeader
  | clusterUnavailable
  | authorization
  | insufficientPermissions
  | leaderOnlyOperation
  | conflict
  | resourceAlreadyExists
  | internal
  | uuidGenerationFailed
  | serializationFailed
  | raftApplyFailed
  | indexOperationFailed
  | documentOperationFailed
  | batchOperationFailed
  | searchFailed
  | generic
deriving DecidableEq, Repr

/-- A code that a server sends. -/
inductive Code where
  | missingParameter
  | invalidParameter
  | invalidRequestBody
  | conflictingParameters
  | invalidFormat
  | parseError
  | indexNotFound
  | documentNotFound
  | notLeader
  | clusterUnavailable
  | insufficientPermissions
  | leaderOnlyOperation
  | resourceAlreadyExists
  | uuidGenerationFailed
  | serializationFailed
  | raftApplyFailed
  | indexOperationFailed
  | documentOperationFailed
  | batchOperationFailed
  | searchFailed
  | internalError
deriving DecidableEq, Repr

/-! ## Categories -/

namespace Category

/-- All categories. -/
def all : List Category :=
  [.validation, .notFound, .cluster, .authorization, .conflict, .internal, .unknown]

/-- The name of a category in messages and data. -/
def wire : Category → String
  | .validation => "validation"
  | .notFound => "not_found"
  | .cluster => "cluster"
  | .authorization => "authorization"
  | .conflict => "conflict"
  | .internal => "internal"
  | .unknown => "unknown"

/-- The status that a server pairs with a category, `500` where it has none of its own. -/
def status : Category → Nat
  | .validation => 400
  | .notFound => 404
  | .authorization => 403
  | .conflict => 409
  | .cluster | .internal | .unknown => 500

end Category

/-! ## Kinds -/

namespace Kind

/-- All kinds. -/
def all : List Kind :=
  [.validation, .missingParameter, .invalidParameter, .invalidRequestBody,
   .conflictingParameters, .invalidFormat, .parseError, .notFound, .indexNotFound,
   .documentNotFound, .cluster, .notLeader, .clusterUnavailable, .authorization,
   .insufficientPermissions, .leaderOnlyOperation, .conflict, .resourceAlreadyExists, .internal,
   .uuidGenerationFailed, .serializationFailed, .raftApplyFailed, .indexOperationFailed,
   .documentOperationFailed, .batchOperationFailed, .searchFailed, .generic]

/-- The name of a kind in messages and data. -/
def wire : Kind → String
  | .validation => "validation"
  | .missingParameter => "missing_parameter"
  | .invalidParameter => "invalid_parameter"
  | .invalidRequestBody => "invalid_request_body"
  | .conflictingParameters => "conflicting_parameters"
  | .invalidFormat => "invalid_format"
  | .parseError => "parse_error"
  | .notFound => "not_found"
  | .indexNotFound => "index_not_found"
  | .documentNotFound => "document_not_found"
  | .cluster => "cluster"
  | .notLeader => "not_leader"
  | .clusterUnavailable => "cluster_unavailable"
  | .authorization => "authorization"
  | .insufficientPermissions => "insufficient_permissions"
  | .leaderOnlyOperation => "leader_only_operation"
  | .conflict => "conflict"
  | .resourceAlreadyExists => "resource_already_exists"
  | .internal => "internal"
  | .uuidGenerationFailed => "uuid_generation_failed"
  | .serializationFailed => "serialization_failed"
  | .raftApplyFailed => "raft_apply_failed"
  | .indexOperationFailed => "index_operation_failed"
  | .documentOperationFailed => "document_operation_failed"
  | .batchOperationFailed => "batch_operation_failed"
  | .searchFailed => "search_failed"
  | .generic => "generic"

/-- The category that a kind belongs to. -/
def category : Kind → Category
  | .validation | .missingParameter | .invalidParameter | .invalidRequestBody
  | .conflictingParameters | .invalidFormat | .parseError => .validation
  | .notFound | .indexNotFound | .documentNotFound => .notFound
  | .cluster | .notLeader | .clusterUnavailable => .cluster
  | .authorization | .insufficientPermissions | .leaderOnlyOperation => .authorization
  | .conflict | .resourceAlreadyExists => .conflict
  | .internal | .uuidGenerationFailed | .serializationFailed | .raftApplyFailed
  | .indexOperationFailed | .documentOperationFailed | .batchOperationFailed | .searchFailed =>
    .internal
  | .generic => .unknown

/-- The kind of a failure that is told from its status alone. -/
def ofStatus (status : Int) : Kind :=
  if status = 400 then .validation
  else if status = 404 then .notFound
  else if status = 403 then .authorization
  else if status = 409 then .conflict
  else if status = 307 || status = 503 then .cluster
  else if status = 500 then .internal
  else .generic

end Kind

/-! ## Codes -/

namespace Code

/-- All codes. -/
def all : List Code :=
  [.missingParameter, .invalidParameter, .invalidRequestBody, .conflictingParameters,
   .invalidFormat, .parseError, .indexNotFound, .documentNotFound, .notLeader,
   .clusterUnavailable, .insufficientPermissions, .leaderOnlyOperation, .resourceAlreadyExists,
   .uuidGenerationFailed, .serializationFailed, .raftApplyFailed, .indexOperationFailed,
   .documentOperationFailed, .batchOperationFailed, .searchFailed, .internalError]

/-- The text that a server sends for a code. -/
def wire : Code → String
  | .missingParameter => "MISSING_PARAMETER"
  | .invalidParameter => "INVALID_PARAMETER"
  | .invalidRequestBody => "INVALID_REQUEST_BODY"
  | .conflictingParameters => "CONFLICTING_PARAMETERS"
  | .invalidFormat => "INVALID_FORMAT"
  | .parseError => "PARSE_ERROR"
  | .indexNotFound => "INDEX_NOT_FOUND"
  | .documentNotFound => "DOCUMENT_NOT_FOUND"
  | .notLeader => "NOT_LEADER"
  | .clusterUnavailable => "CLUSTER_UNAVAILABLE"
  | .insufficientPermissions => "INSUFFICIENT_PERMISSIONS"
  | .leaderOnlyOperation => "LEADER_ONLY_OPERATION"
  | .resourceAlreadyExists => "RESOURCE_ALREADY_EXISTS"
  | .uuidGenerationFailed => "UUID_GENERATION_FAILED"
  | .serializationFailed => "SERIALIZATION_FAILED"
  | .raftApplyFailed => "RAFT_APPLY_FAILED"
  | .indexOperationFailed => "INDEX_OPERATION_FAILED"
  | .documentOperationFailed => "DOCUMENT_OPERATION_FAILED"
  | .batchOperationFailed => "BATCH_OPERATION_FAILED"
  | .searchFailed => "SEARCH_FAILED"
  | .internalError => "INTERNAL_ERROR"

/-- The code that a text stands for. -/
def ofWire? (s : String) : Option Code :=
  all.find? (·.wire == s)

/-- The kind that a code belongs to. -/
def kind : Code → Kind
  | .missingParameter => .missingParameter
  | .invalidParameter => .invalidParameter
  | .invalidRequestBody => .invalidRequestBody
  | .conflictingParameters => .conflictingParameters
  | .invalidFormat => .invalidFormat
  | .parseError => .parseError
  | .indexNotFound => .indexNotFound
  | .documentNotFound => .documentNotFound
  | .notLeader => .notLeader
  | .clusterUnavailable => .clusterUnavailable
  | .insufficientPermissions => .insufficientPermissions
  | .leaderOnlyOperation => .leaderOnlyOperation
  | .resourceAlreadyExists => .resourceAlreadyExists
  | .uuidGenerationFailed => .uuidGenerationFailed
  | .serializationFailed => .serializationFailed
  | .raftApplyFailed => .raftApplyFailed
  | .indexOperationFailed => .indexOperationFailed
  | .documentOperationFailed => .documentOperationFailed
  | .batchOperationFailed => .batchOperationFailed
  | .searchFailed => .searchFailed
  | .internalError => .internal

/-- The category that a code belongs to. -/
def category (c : Code) : Category :=
  c.kind.category

/-- The status that a server pairs with a code: that of its category, but for the two codes of a
    cluster. -/
def defaultStatus : Code → Nat
  | .notLeader => 307
  | .clusterUnavailable => 503
  | c => c.category.status

end Code

end SearchClient.Failure
