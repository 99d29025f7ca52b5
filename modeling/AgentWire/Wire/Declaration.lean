import AgentWire.Wire.Shape
/-!
The declarations: the words of every enumeration, the fields of every record in their order, and the
shape of every alias.
-/
namespace AgentWire

namespace Enumeration

def name : Enumeration → String
  | .columnNullability => "ColumnNullability"
  | .atomicitySupportLevel => "AtomicitySupportLevel"
  | .graphQLType => "GraphQLType"
  | .detailLevel => "DetailLevel"
  | .functionResponseCardinality => "FunctionResponseCardinality"
  | .functionType => "FunctionType"
  | .tableType => "TableType"
  | .relationshipType => "RelationshipType"
  | .unaryComparisonOperator => "UnaryComparisonOperator"
  | .binaryComparisonOperator => "BinaryComparisonOperator"
  | .binaryArrayComparisonOperator => "BinaryArrayComparisonOperator"
  | .orderDirection => "OrderDirection"
  | .objectRelationInsertionOrder => "ObjectRelationInsertionOrder"
  | .errorResponseType => "ErrorResponseType"

def words : Enumeration → List String
  | .columnNullability => ["only_nullable", "nullable_and_non_nullable"]
  | .atomicitySupportLevel =>
    ["row", "single_operation", "homogeneous_operations", "heterogeneous_operations"]
  | .graphQLType => ["Int", "Float", "String", "Boolean", "ID"]
  | .detailLevel => ["everything", "basic_info"]
  | .functionResponseCardinality => ["one", "many"]
  | .functionType => ["read", "write"]
  | .tableType => ["table", "view"]
  | .relationshipType => ["object", "array"]
  | .unaryComparisonOperator => ["is_null"]
  | .binaryComparisonOperator =>
    ["less_than", "less_than_or_equal", "equal", "greater_than", "greater_than_or_equal"]
  | .binaryArrayComparisonOperator => ["in"]
  | .orderDirection => ["asc", "desc"]
  | .objectRelationInsertionOrder => ["before_parent", "after_parent"]
  | .errorResponseType =>
    ["uncaught-error", "mutation-constraint-violation", "mutation-permission-check-failure"]

def description : Enumeration → Option String
  | .graphQLType => some <|
      "Built-in GraphQL scalar a custom scalar type is parsed as."
  | .detailLevel => some <|
      "How much information to return about the schema.\n\n" ++
      "- everything: all information about the schema\n" ++
      "- basic_info: tables and functions report only their name and type"
  | _ => none

def all : List Enumeration :=
  [.columnNullability, .atomicitySupportLevel, .graphQLType, .detailLevel,
   .functionResponseCardinality, .functionType, .tableType, .relationshipType,
   .unaryComparisonOperator, .binaryComparisonOperator, .binaryArrayComparisonOperator,
   .orderDirection, .objectRelationInsertionOrder, .errorResponseType]

end Enumeration

namespace Alias

def name : Alias → String
  | .columnTypeNonScalar => "ColumnTypeNonScalar"
  | .columnType => "ColumnType"
  | .columnValueGenerationStrategy => "ColumnValueGenerationStrategy"
  | .functionReturnType => "FunctionReturnType"
  | .target => "Target"
  | .interpolatedItem => "InterpolatedItem"
  | .columnSelector => "ColumnSelector"
  | .comparisonValue => "ComparisonValue"
  | .existsInTable => "ExistsInTable"
  | .expression => "Expression"
  | .orderByTarget => "OrderByTarget"
  | .aggregate => "Aggregate"
  | .field => "Field"
  | .responseFieldValue => "ResponseFieldValue"
  | .queryResponse => "QueryResponse"
  | .insertFieldSchema => "InsertFieldSchema"
  | .rowUpdate => "RowUpdate"
  | .mutationOperation => "MutationOperation"

def shape : Alias → Shape
  | .columnTypeNonScalar => .tagged [.objectColumnType, .arrayColumnType]
  | .columnType => .either (.tagged [.objectColumnType, .arrayColumnType]) .text
  | .columnValueGenerationStrategy => .tagged [.autoIncrement, .defaultValue, .uniqueIdentifier]
  | .functionReturnType => .tagged [.tableReturnType, .unknownReturnType]
  | .target => .tagged [.tableTarget, .interpolatedTarget, .functionTarget]
  | .interpolatedItem => .tagged [.interpolatedText, .interpolatedScalar]
  | .columnSelector => .either (.list .text) .text
  | .comparisonValue => .tagged [.columnComparisonValue, .scalarComparisonValue]
  | .existsInTable => .tagged [.relatedTable, .unrelatedTable]
  | .expression =>
    .tagged [.andExpression, .orExpression, .notExpression, .applyUnaryComparison,
      .applyBinaryComparison, .applyBinaryArrayComparison, .existsExpression]
  | .orderByTarget =>
    .tagged [.columnOrderByTarget, .singleColumnAggregateOrderByTarget,
      .starCountAggregateOrderByTarget]
  | .aggregate => .tagged [.columnCountAggregate, .singleColumnAggregate, .starCountAggregate]
  | .field => .tagged [.columnField, .objectField, .arrayField, .relationshipField]
  | .responseFieldValue => .either (.record .responseRow) .json
  | .queryResponse => .either (.record .forEachResponse) (.record .responseRow)
  | .insertFieldSchema =>
    .tagged [.arrayRelationInsertSchema, .columnInsertSchema, .objectRelationInsertSchema]
  | .rowUpdate => .tagged [.customUpdateColumnOperatorRowUpdate, .setColumnRowUpdate]
  | .mutationOperation =>
    .tagged [.deleteMutationOperation, .insertMutationOperation, .updateMutationOperation]

def all : List Alias :=
  [.columnTypeNonScalar, .columnType, .columnValueGenerationStrategy, .functionReturnType, .target,
   .interpolatedItem, .columnSelector, .comparisonValue, .existsInTable, .expression,
   .orderByTarget, .aggregate, .field, .responseFieldValue, .queryResponse, .insertFieldSchema,
   .rowUpdate, .mutationOperation]

end Alias

namespace Record

def declaration : Record → Declaration
  -- Capabilities
  | .subqueryComparisonCapabilities => .plain "SubqueryComparisonCapabilities"
    [opt "supports_relations" .flag]
  | .comparisonCapabilities => .plain "ComparisonCapabilities"
    [opt "subquery" (.record .subqueryComparisonCapabilities)]
  | .dataSchemaCapabilities => .plain "DataSchemaCapabilities"
    [opt "column_nullability" (.choice .columnNullability),
     opt "supports_foreign_keys" .flag,
     opt "supports_primary_keys" .flag,
     opt "supports_schemaless_tables" .flag]
  | .insertCapabilities => .plain "InsertCapabilities" [opt "supports_nested_inserts" .flag]
  | .mutationCapabilities => .plain "MutationCapabilities"
    [opt "atomicity_support_level" (.choice .atomicitySupportLevel),
     opt "delete" .json,
     opt "insert" (.record .insertCapabilities),
     opt "returning" .json,
     opt "update" .json]
  | .queryCapabilities => .plain "QueryCapabilities" [opt "foreach" .json]
  | .updateColumnOperatorDefinition => .plain "UpdateColumnOperatorDefinition"
    [req "argument_type" .text]
  | .scalarTypeCapabilities => .described "ScalarTypeCapabilities"
    [opt "aggregate_functions" (.map .text),
     opt "comparison_operators" (.map .text),
     opt "graphql_type" (.choice .graphQLType),
     opt "update_column_operators" (.map (.record .updateColumnOperatorDefinition))]
    ("Capabilities of a scalar type.\n\n" ++
      "- aggregate_functions: aggregate function name -> result scalar type\n" ++
      "- comparison_operators: comparison operator name -> argument scalar type\n" ++
      "- update_column_operators: update operator name -> definition\n" ++
      "- graphql_type: built-in GraphQL scalar used to parse values of this\n" ++
      "  type. When absent any JSON value is accepted.\n\n" ++
      "All names must be valid GraphQL names and referenced types must be\n" ++
      "declared in the capabilities' ``scalar_types``.")
  | .capabilities => .described "Capabilities"
    [opt "comparisons" (.record .comparisonCapabilities),
     opt "data_schema" (.record .dataSchemaCapabilities),
     opt "datasets" .json,
     opt "explain" .json,
     opt "interpolated_queries" .json,
     opt "licensing" .json,
     opt "metrics" .json,
     opt "mutations" (.record .mutationCapabilities),
     opt "queries" (.record .queryCapabilities),
     opt "raw" .json,
     opt "relationships" .json,
     opt "scalar_types" (.map (.record .scalarTypeCapabilities)),
     opt "subscriptions" .json,
     opt "user_defined_functions" .json,
     opt "post_schema_capabilities" .json]
    "Feature flags of an agent. Opaque sections are kept as raw JSON."
  | .configSchemaResponse => .described "ConfigSchemaResponse"
    [req "config_schema" (.map .json),
     req "other_schemas" (.map (.map .json))]
    "OpenAPI schema objects describing the agent's configuration."
  | .capabilitiesResponse => .plain "CapabilitiesResponse"
    [req "capabilities" (.record .capabilities),
     req "config_schemas" (.record .configSchemaResponse),
     opt "display_name" .text,
     opt "release_name" .text]
  -- Schema
  | .schemaFilters => .plain "SchemaFilters"
    [opt "only_functions" (.list .names),
     opt "only_tables" (.list .names)]
  | .schemaRequest => .plain "SchemaRequest"
    [opt "detail_level" (.choice .detailLevel),
     opt "filters" (.record .schemaFilters)]
  | .objectColumnType => .plain "ObjectColumnType" [variant "object", req "name" .text]
  | .arrayColumnType => .plain "ArrayColumnType"
    [variant "array",
     req "element_type" Alias.columnType.shape,
     req "nullable" .flag]
  | .autoIncrement => .plain "AutoIncrement" [variant "auto_increment"]
  | .defaultValue => .plain "DefaultValue" [variant "default_value"]
  | .uniqueIdentifier => .plain "UniqueIdentifier" [variant "unique_identifier"]
  | .columnInfo => .plain "ColumnInfo"
    [opt "description" .text,
     opt "insertable" .flag,
     req "name" .text,
     req "nullable" .flag,
     req "type" Alias.columnType.shape,
     opt "updatable" .flag,
     opt "value_generated" Alias.columnValueGenerationStrategy.shape]
  | .objectTypeDefinition => .plain "ObjectTypeDefinition"
    [req "columns" (.list (.record .columnInfo)),
     opt "description" .text,
     req "name" .text]
  | .constraint => .described "Constraint"
    [req "column_mapping" (.map .text),
     req "foreign_table" .names]
    "Foreign key constraint: local column -> column of ``foreign_table``."
  | .tableInfo => .plain "TableInfo"
    [opt "columns" (.list (.record .columnInfo)),
     opt "deletable" .flag,
     opt "description" .text,
     opt "foreign_keys" (.map (.record .constraint)),
     opt "insertable" .flag,
     req "name" .names,
     opt "primary_key" (.list .text),
     opt "type" (.choice .tableType),
     opt "updatable" .flag]
  | .functionInformationArgument => .plain "FunctionInformationArgument"
    [req "name" .text,
     opt "optional" .flag,
     req "type" .text]
  | .tableReturnType => .plain "TableReturnType" [variant "table", req "table" .names]
  | .unknownReturnType => .plain "UnknownReturnType" [variant "unknown"]
  | .functionInfo => .plain "FunctionInfo"
    [opt "args" (.list (.record .functionInformationArgument)),
     opt "description" .text,
     req "name" .names,
     opt "response_cardinality" (.choice .functionResponseCardinality),
     opt "returns" Alias.functionReturnType.shape,
     req "type" (.choice .functionType)]
  | .schemaResponse => .plain "SchemaResponse"
    [opt "object_types" (.list (.record .objectTypeDefinition)),
     req "tables" (.list (.record .tableInfo)),
     opt "functions" (.list (.record .functionInfo))]
  -- Queries
  | .scalarArgumentValue => .plain "ScalarArgumentValue"
    [variant "scalar",
     req "value" .json,
     req "value_type" .text]
  | .namedArgument => .plain "NamedArgument"
    [variant "named",
     req "name" .text,
     req "value" (.record .scalarArgumentValue)]
  | .tableTarget => .plain "TableTarget" [variant "table", req "name" .names]
  | .interpolatedTarget => .plain "InterpolatedTarget" [variant "interpolated", req "id" .text]
  | .functionTarget => .plain "FunctionTarget"
    [variant "function",
     req "name" .names,
     req "arguments" (.list (.record .namedArgument))]
  | .interpolatedText => .plain "InterpolatedText" [variant "text", req "value" .text]
  | .interpolatedScalar => .plain "InterpolatedScalar"
    [variant "scalar",
     req "value" .json,
     req "value_type" .text]
  | .interpolatedQuery => .plain "InterpolatedQuery"
    [req "id" .text,
     req "items" (.list Alias.interpolatedItem.shape)]
  | .scalarValue => .plain "ScalarValue" [req "value" .json, req "value_type" .text]
  | .relationship => .plain "Relationship"
    [req "column_mapping" (.map .text),
     req "relationship_type" (.choice .relationshipType),
     req "target" Alias.target.shape]
  | .tableRelationships => .described "TableRelationships"
    [req "relationships" (.map (.record .relationship)),
     req "source_table" .names]
    "Relationships from ``source_table``, keyed by relationship name."
  | .comparisonColumn => .plain "ComparisonColumn"
    [req "column_type" .text,
     req "name" Alias.columnSelector.shape,
     opt "path" (.list .text)]
  | .columnComparisonValue => .plain "ColumnComparisonValue"
    [variant "column",
     req "column" (.record .comparisonColumn)]
  | .scalarComparisonValue => .plain "ScalarComparisonValue"
    [variant "scalar",
     req "value" .json,
     req "value_type" .text]
  | .relatedTable => .plain "RelatedTable" [variant "related", req "relationship" .text]
  | .unrelatedTable => .plain "UnrelatedTable" [variant "unrelated", req "table" .names]
  | .andExpression => .plain "AndExpression"
    [variant "and",
     req "expressions" (.list Alias.expression.shape)]
  | .orExpression => .plain "OrExpression"
    [variant "or",
     req "expressions" (.list Alias.expression.shape)]
  | .notExpression => .plain "NotExpression"
    [variant "not",
     req "expression" Alias.expression.shape]
  | .applyUnaryComparison => .plain "ApplyUnaryComparison"
    [variant "unary_op",
     req "column" (.record .comparisonColumn),
     req "operator" (.operator .unaryComparisonOperator)]
  | .applyBinaryComparison => .plain "ApplyBinaryComparison"
    [variant "binary_op",
     req "column" (.record .comparisonColumn),
     req "operator" (.operator .binaryComparisonOperator),
     req "value" Alias.comparisonValue.shape]
  | .applyBinaryArrayComparison => .plain "ApplyBinaryArrayComparison"
    [variant "binary_arr_op",
     req "column" (.record .comparisonColumn),
     req "operator" (.operator .binaryArrayComparisonOperator),
     req "value_type" .text,
     req "values" (.list .json)]
  | .existsExpression => .plain "ExistsExpression"
    [variant "exists",
     req "in_table" Alias.existsInTable.shape,
     req "where" Alias.expression.shape]
  | .columnOrderByTarget => .plain "ColumnOrderByTarget"
    [variant "column",
     req "column" Alias.columnSelector.shape]
  | .singleColumnAggregateOrderByTarget => .plain "SingleColumnAggregateOrderByTarget"
    [variant "single_column_aggregate",
     req "column" .text,
     req "function" .text,
     req "result_type" .text]
  | .starCountAggregateOrderByTarget => .plain "StarCountAggregateOrderByTarget"
    [variant "star_count_aggregate"]
  | .orderByElement => .plain "OrderByElement"
    [req "order_direction" (.choice .orderDirection),
     req "target" Alias.orderByTarget.shape,
     req "target_path" (.list .text)]
  | .orderByRelation => .plain "OrderByRelation"
    [req "subrelations" (.map (.record .orderByRelation)),
     opt "where" Alias.expression.shape]
  | .orderBy => .described "OrderBy"
    [req "elements" (.list (.record .orderByElement)),
     req "relations" (.map (.record .orderByRelation))]
    ("Ordering of a query.\n\n" ++
      "``elements`` are in priority order. ``relations`` holds the relationships,\n" ++
      "keyed by name, that the elements' target paths traverse.")
  | .columnCountAggregate => .plain "ColumnCountAggregate"
    [variant "column_count",
     req "column" .text,
     req "distinct" .flag]
  | .singleColumnAggregate => .plain "SingleColumnAggregate"
    [variant "single_column",
     req "column" .text,
     req "function" .text,
     req "result_type" .text]
  | .starCountAggregate => .plain "StarCountAggregate" [variant "star_count"]
  | .columnField => .plain "ColumnField"
    [variant "column",
     req "column" .text,
     req "column_type" .text]
  | .objectField => .plain "ObjectField"
    [variant "object",
     req "column" .text,
     req "query" (.record .query)]
  | .arrayField => .plain "ArrayField"
    [variant "array",
     req "field" Alias.field.shape,
     opt "limit" .integer,
     opt "offset" .integer,
     opt "where" (.record .orderBy)]
  | .relationshipField => .plain "RelationshipField"
    [variant "relationship",
     req "query" (.record .query),
     req "relationship" .text]
  | .query => .plain "Query"
    [opt "aggregates" (.map Alias.aggregate.shape),
     opt "aggregates_limit" .natural,
     opt "fields" (.map Alias.field.shape),
     opt "limit" .natural,
     opt "offset" .natural,
     opt "order_by" (.record .orderBy),
     opt "where" Alias.expression.shape]
  | .queryRequest => .described "QueryRequest"
    [opt "foreach" (.list (.map (.record .scalarValue))),
     opt "interpolated_queries" (.map (.record .interpolatedQuery)),
     req "query" (.record .query),
     req "target" Alias.target.shape,
     req "relationships" (.list (.record .tableRelationships))]
    ("A query against a target.\n\n" ++
      "When ``foreach`` is present the query is repeated for each entry, with its\n" ++
      "column values applied as an equality filter, and the agent answers with a\n" ++
      "ForEachResponse.")
  | .responseRow => .sealed "ResponseRow"
    [opt "aggregates" (.map .json),
     opt "rows" (.list (.map Alias.responseFieldValue.shape))]
    (some "Single result set: aggregate results and rows keyed by field name.")
  | .forEachRow => .sealed "ForEachRow" [req "query" (.record .responseRow)] none
  | .forEachResponse => .sealed "ForEachResponse" [req "rows" (.list (.record .forEachRow))]
    (some "One result set per ``foreach`` entry of the request, in order.")
  -- Mutations
  | .arrayRelationInsertSchema => .plain "ArrayRelationInsertSchema"
    [variant "array_relation",
     req "relationship" .text]
  | .columnInsertSchema => .plain "ColumnInsertSchema"
    [variant "column",
     req "column" .text,
     req "column_type" Alias.columnType.shape,
     req "nullable" .flag,
     opt "value_generated" Alias.columnValueGenerationStrategy.shape]
  | .objectRelationInsertSchema => .plain "ObjectRelationInsertSchema"
    [variant "object_relation",
     req "insertion_order" (.choice .objectRelationInsertionOrder),
     req "relationship" .text]
  | .tableInsertSchema => .described "TableInsertSchema"
    [req "fields" (.map Alias.insertFieldSchema.shape),
     opt "primary_key" (.list .text),
     req "table" .names]
    "How to interpret insert row data for ``table``, keyed by row field name."
  | .customUpdateColumnOperatorRowUpdate => .plain "CustomUpdateColumnOperatorRowUpdate"
    [variant "custom_operator",
     req "column" .text,
     req "operator_name" .text,
     req "value" .json,
     req "value_type" .text]
  | .setColumnRowUpdate => .plain "SetColumnRowUpdate"
    [variant "set",
     req "column" .text,
     req "value" (.map .json),
     req "value_type" .text]
  | .deleteMutationOperation => .plain "DeleteMutationOperation"
    [variant "delete",
     opt "returning_fields" (.map Alias.field.shape),
     req "table" .names,
     opt "where" Alias.expression.shape]
  | .insertMutationOperation => .plain "InsertMutationOperation"
    [variant "insert",
     opt "post_insert_check" Alias.expression.shape,
     opt "returning_fields" (.map Alias.field.shape),
     req "rows" (.list (.map .json)),
     req "table" .names]
  | .updateMutationOperation => .plain "UpdateMutationOperation"
    [variant "update",
     opt "post_update_check" Alias.expression.shape,
     opt "returning_fields" (.map Alias.field.shape),
     req "table" .names,
     req "updates" (.list Alias.rowUpdate.shape),
     opt "where" Alias.expression.shape]
  | .mutationRequest => .plain "MutationRequest"
    [req "insert_schema" (.list (.record .tableInsertSchema)),
     req "operations" (.list Alias.mutationOperation.shape),
     req "relationships" (.list (.record .tableRelationships))]
  | .mutationOperationResults => .plain "MutationOperationResults"
    [req "affected_rows" .natural,
     opt "returning" (.list (.map Alias.responseFieldValue.shape))]
  | .mutationResponse => .plain "MutationResponse"
    [req "operation_results" (.list (.record .mutationOperationResults))]
  -- Raw queries
  | .rawRequest => .plain "RawRequest" [req "query" .text]
  | .rawResponse => .plain "RawResponse" [req "rows" (.list (.map .json))]
  -- Explain
  | .explainResponse => .plain "ExplainResponse" [req "lines" (.list .text), req "query" .text]
  -- Errors
  | .errorResponse => .plain "ErrorResponse"
    [opt "details" (.map .json),
     req "message" .text,
     opt "type" (.choice .errorResponseType)]

def name (r : Record) : String := r.declaration.name

def fields (r : Record) : List Field := r.declaration.fields

def closed (r : Record) : Bool := r.declaration.closed

/-- The text its `type` must be, if the record is a variant. -/
def label? (r : Record) : Option String :=
  r.fields.findSome? fun f => match f.shape, f.need with
    | .tag label, .constant => some label
    | _, _ => none

def all : List Record :=
  [.subqueryComparisonCapabilities, .comparisonCapabilities, .dataSchemaCapabilities,
   .insertCapabilities, .mutationCapabilities, .queryCapabilities, .updateColumnOperatorDefinition,
   .scalarTypeCapabilities, .capabilities, .configSchemaResponse, .capabilitiesResponse,
   .schemaFilters, .schemaRequest, .objectColumnType, .arrayColumnType, .autoIncrement,
   .defaultValue, .uniqueIdentifier, .columnInfo, .objectTypeDefinition, .constraint, .tableInfo,
   .functionInformationArgument, .tableReturnType, .unknownReturnType, .functionInfo,
   .schemaResponse, .scalarArgumentValue, .namedArgument, .tableTarget, .interpolatedTarget,
   .functionTarget, .interpolatedText, .interpolatedScalar, .interpolatedQuery, .scalarValue,
   .relationship, .tableRelationships, .comparisonColumn, .columnComparisonValue,
   .scalarComparisonValue, .relatedTable, .unrelatedTable, .andExpression, .orExpression,
   .notExpression, .applyUnaryComparison, .applyBinaryComparison, .applyBinaryArrayComparison,
   .existsExpression, .columnOrderByTarget, .singleColumnAggregateOrderByTarget,
   .starCountAggregateOrderByTarget, .orderByElement, .orderByRelation, .orderBy,
   .columnCountAggregate, .singleColumnAggregate, .starCountAggregate, .columnField, .objectField,
   .arrayField, .relationshipField, .query, .queryRequest, .responseRow, .forEachRow,
   .forEachResponse, .arrayRelationInsertSchema, .columnInsertSchema, .objectRelationInsertSchema,
   .tableInsertSchema, .customUpdateColumnOperatorRowUpdate, .setColumnRowUpdate,
   .deleteMutationOperation, .insertMutationOperation, .updateMutationOperation, .mutationRequest,
   .mutationOperationResults, .mutationResponse, .rawRequest, .rawResponse, .explainResponse,
   .errorResponse]

end Record

end AgentWire
