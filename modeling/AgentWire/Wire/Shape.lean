/-!
Wire types as data. A `Shape` says what may stand at one place of a document; records refer to each
other by name, so the shapes of the recursive types are finite.
-/
namespace AgentWire

inductive Enumeration where
  -- Capabilities
  | columnNullability
  | atomicitySupportLevel
  | graphQLType
  -- Schema
  | detailLevel
  | functionResponseCardinality
  | functionType
  | tableType
  -- Queries
  | relationshipType
  | unaryComparisonOperator
  | binaryComparisonOperator
  | binaryArrayComparisonOperator
  | orderDirection
  -- Mutations
  | objectRelationInsertionOrder
  -- Errors
  | errorResponseType
  deriving DecidableEq, Repr

inductive Record where
  -- Capabilities
  | subqueryComparisonCapabilities
  | comparisonCapabilities
  | dataSchemaCapabilities
  | insertCapabilities
  | mutationCapabilities
  | queryCapabilities
  | updateColumnOperatorDefinition
  | scalarTypeCapabilities
  | capabilities
  | configSchemaResponse
  | capabilitiesResponse
  -- Schema
  | schemaFilters
  | schemaRequest
  | objectColumnType
  | arrayColumnType
  | autoIncrement
  | defaultValue
  | uniqueIdentifier
  | columnInfo
  | objectTypeDefinition
  | constraint
  | tableInfo
  | functionInformationArgument
  | tableReturnType
  | unknownReturnType
  | functionInfo
  | schemaResponse
  -- Queries
  | scalarArgumentValue
  | namedArgument
  | tableTarget
  | interpolatedTarget
  | functionTarget
  | interpolatedText
  | interpolatedScalar
  | interpolatedQuery
  | scalarValue
  | relationship
  | tableRelationships
  | comparisonColumn
  | columnComparisonValue
  | scalarComparisonValue
  | relatedTable
  | unrelatedTable
  | andExpression
  | orExpression
  | notExpression
  | applyUnaryComparison
  | applyBinaryComparison
  | applyBinaryArrayComparison
  | existsExpression
  | columnOrderByTarget
  | singleColumnAggregateOrderByTarget
  | starCountAggregateOrderByTarget
  | orderByElement
  | orderByRelation
  | orderBy
  | columnCountAggregate
  | singleColumnAggregate
  | starCountAggregate
  | columnField
  | objectField
  | arrayField
  | relationshipField
  | query
  | queryRequest
  | responseRow
  | forEachRow
  | forEachResponse
  -- Mutations
  | arrayRelationInsertSchema
  | columnInsertSchema
  | objectRelationInsertSchema
  | tableInsertSchema
  | customUpdateColumnOperatorRowUpdate
  | setColumnRowUpdate
  | deleteMutationOperation
  | insertMutationOperation
  | updateMutationOperation
  | mutationRequest
  | mutationOperationResults
  | mutationResponse
  -- Raw queries
  | rawRequest
  | rawResponse
  -- Explain
  | explainResponse
  -- Errors
  | errorResponse
  deriving DecidableEq, Repr

/-- The first integer that is too large for a natural of the wire, 2 ^ 64. -/
def naturalEnd : Int := 0x10000000000000000

inductive Shape where
  | text
  | flag
  | integer
  /-- An integer from 0 on that is less than `naturalEnd`. -/
  | natural
  | json
  /-- A possibly qualified name: an array of one or more texts. -/
  | names
  | choice (e : Enumeration)
  /-- Any text; the words of the set are told apart from other texts. -/
  | operator (e : Enumeration)
  | tag (label : String)
  | list (item : Shape)
  | map (value : Shape)
  | record (r : Record)
  | tagged (variants : List Record)
  /-- The first shape if the document has it, otherwise the second. -/
  | either (first second : Shape)
  deriving DecidableEq, Repr

/-- Shapes that are no record and have a name of their own. -/
inductive Alias where
  -- Schema
  | columnTypeNonScalar
  | columnType
  | columnValueGenerationStrategy
  | functionReturnType
  -- Queries
  | target
  | interpolatedItem
  | columnSelector
  | comparisonValue
  | existsInTable
  | expression
  | orderByTarget
  | aggregate
  | field
  | responseFieldValue
  | queryResponse
  -- Mutations
  | insertFieldSchema
  | rowUpdate
  | mutationOperation
  deriving DecidableEq, Repr

inductive Need where
  | required
  /-- May be left out, which is the same as null. -/
  | optional
  /-- May be left out; then it is the only text its tag allows. -/
  | constant
  deriving DecidableEq, Repr

structure Field where
  name : String
  shape : Shape
  need : Need
  deriving DecidableEq, Repr

structure Declaration where
  name : String
  fields : List Field
  closed : Bool
  description : Option String
  deriving DecidableEq, Repr

namespace Declaration

def plain (name : String) (fields : List Field) : Declaration := ⟨name, fields, false, none⟩

def described (name : String) (fields : List Field) (description : String) : Declaration :=
  ⟨name, fields, false, some description⟩

def sealed (name : String) (fields : List Field) (description : Option String) : Declaration :=
  ⟨name, fields, true, description⟩

end Declaration

def req (name : String) (shape : Shape) : Field := ⟨name, shape, .required⟩

def opt (name : String) (shape : Shape) : Field := ⟨name, shape, .optional⟩

def variant (label : String) : Field := ⟨"type", .tag label, .constant⟩

end AgentWire
