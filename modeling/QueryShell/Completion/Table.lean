/-!
# Tables of suggestions

What can be suggested without knowing the store. The text to insert is a
snippet: `$1` and `${1:text}` are places where the cursor stops, and a dollar
sign that stands for itself has a backslash before it.
-/

namespace QueryShell.Completion

/-- One suggestion of a table. -/
structure Entry where
  label : String
  detail : String
  /-- The snippet to insert. -/
  template : String

namespace Entry

/-- The operations that a chain may begin with. -/
def methods : List Entry := [
    ⟨"find", "Selects documents in a collection", "find({ $1 })"⟩,
    ⟨"findOne", "Returns one document that satisfies the query", "findOne({ $1 })"⟩,
    ⟨"insertOne", "Inserts a single document into a collection", "insertOne({ $1 })"⟩,
    ⟨"insertMany", "Inserts multiple documents into a collection", "insertMany([{ $1 }])"⟩,
    ⟨"updateOne", "Updates a single document",
      r"updateOne({ ${1:filter} }, { \$set: { ${2:field}: ${3:value} } })"⟩,
    ⟨"updateMany", "Updates all matching documents",
      r"updateMany({ ${1:filter} }, { \$set: { ${2:field}: ${3:value} } })"⟩,
    ⟨"deleteOne", "Removes a single document", "deleteOne({ $1 })"⟩,
    ⟨"deleteMany", "Removes all matching documents", "deleteMany({ $1 })"⟩,
    ⟨"aggregate", "Performs aggregation operations", "aggregate([\n  $1\n])"⟩,
    ⟨"countDocuments", "Returns the count of matching documents", "countDocuments({ $1 })"⟩,
    ⟨"distinct", "Returns distinct values for a field",
      r#"distinct("${1:field}", { $2 })"#⟩
  ]

/-- The calls that may be made on a cursor. -/
def modifiers : List Entry := [
    ⟨"sort", "Specifies the order of documents",
      "sort({ ${1:field}: ${2|-1,1|} })"⟩,
    ⟨"limit", "Constrains the size of the result set", "limit(${1:10})"⟩,
    ⟨"skip", "Skips documents in the result set", "skip(${1:0})"⟩,
    ⟨"explain", "Reports on the query execution plan", r#"explain("executionStats")"#⟩
  ]

/-- The operators of queries. -/
def queryOperators : List Entry := [
    ⟨"$eq", "Matches values equal to a specified value", r"\$eq: "⟩,
    ⟨"$ne", "Matches values not equal to a specified value", r"\$ne: "⟩,
    ⟨"$gt", "Matches values greater than a specified value", r"\$gt: "⟩,
    ⟨"$gte", "Matches values greater than or equal to a specified value", r"\$gte: "⟩,
    ⟨"$lt", "Matches values less than a specified value", r"\$lt: "⟩,
    ⟨"$lte", "Matches values less than or equal to a specified value", r"\$lte: "⟩,
    ⟨"$in", "Matches any of the values in an array", r"\$in: [$1]"⟩,
    ⟨"$nin", "Matches none of the values in an array", r"\$nin: [$1]"⟩,
    ⟨"$exists", "Matches documents that have the specified field", r"\$exists: true"⟩,
    ⟨"$type", "Selects documents if a field is of the specified type", r#"\$type: "$1""#⟩,
    ⟨"$regex", "Selects documents where values match a specified regex", r"\$regex: /$1/"⟩,
    ⟨"$and", "Joins query clauses with a logical AND", r"\$and: [{ $1 }]"⟩,
    ⟨"$or", "Joins query clauses with a logical OR", r"\$or: [{ $1 }]"⟩,
    ⟨"$not", "Inverts the effect of a query expression", r"\$not: { $1 }"⟩,
    ⟨"$nor", "Joins query clauses with a logical NOR", r"\$nor: [{ $1 }]"⟩,
    ⟨"$all", "Matches arrays that contain all specified elements", r"\$all: [$1]"⟩,
    ⟨"$elemMatch", "Matches documents with an array field element matching all conditions",
      r"\$elemMatch: { $1 }"⟩,
    ⟨"$size", "Matches arrays with specified number of elements", r"\$size: $1"⟩
  ]

/-- The stages of aggregation pipelines. -/
def aggregationStages : List Entry := [
    ⟨"$match", "Filters documents to pass only matching documents",
      r"{ \$match: { $1 } }"⟩,
    ⟨"$group", "Groups documents by specified expression",
      r#"{ \$group: { _id: "\$${1:field}", ${2:result}: { \$sum: 1 } } }"#⟩,
    ⟨"$project", "Reshapes documents by including/excluding fields",
      r"{ \$project: { ${1:field}: 1 } }"⟩,
    ⟨"$sort", "Reorders documents by specified sort key(s)",
      r"{ \$sort: { ${1:field}: ${2|-1,1|} } }"⟩,
    ⟨"$limit", "Limits the number of documents", r"{ \$limit: ${1:10} }"⟩,
    ⟨"$skip", "Skips over specified number of documents", r"{ \$skip: ${1:0} }"⟩,
    ⟨"$lookup", "Performs a left outer join to another collection",
      r#"{ \$lookup: { from: "${1:collection}", localField: "${2:field}", foreignField: "${3:_id}", as: "${4:result}" } }"#⟩,
    ⟨"$unwind", "Deconstructs an array field into multiple documents",
      r#"{ \$unwind: "\$${1:arrayField}" }"#⟩,
    ⟨"$addFields", "Adds new fields to documents",
      r#"{ \$addFields: { ${1:newField}: "\$${2:existingField}" } }"#⟩,
    ⟨"$count", "Returns count of documents", r#"{ \$count: "${1:total}" }"#⟩,
    ⟨"$facet", "Processes multiple aggregation pipelines",
      r"{ \$facet: { ${1:output1}: [{ \$match: {} }] } }"⟩,
    ⟨"$bucket", "Categorizes documents into groups (buckets)",
      r#"{ \$bucket: { groupBy: "\$${1:field}", boundaries: [${2:0, 100, 200}], default: "Other" } }"#⟩,
    ⟨"$replaceRoot", "Replaces the input document with specified document",
      r#"{ \$replaceRoot: { newRoot: "\$${1:field}" } }"#⟩,
    ⟨"$out", "Writes the result to a collection", r#"{ \$out: "${1:collectionName}" }"#⟩,
    ⟨"$merge", "Writes the result to a collection with merge options",
      r#"{ \$merge: { into: "${1:collection}" } }"#⟩
  ]

/-- The operators that combine the documents of a group. -/
def accumulators : List Entry := [
    ⟨"$sum", "Returns the sum of numeric values", r#"\$sum: "\$${1:field}""#⟩,
    ⟨"$avg", "Returns the average of numeric values", r#"\$avg: "\$${1:field}""#⟩,
    ⟨"$min", "Returns the minimum value", r#"\$min: "\$${1:field}""#⟩,
    ⟨"$max", "Returns the maximum value", r#"\$max: "\$${1:field}""#⟩,
    ⟨"$first", "Returns the first value in a group", r#"\$first: "\$${1:field}""#⟩,
    ⟨"$last", "Returns the last value in a group", r#"\$last: "\$${1:field}""#⟩,
    ⟨"$push", "Returns an array of all values in a group", r#"\$push: "\$${1:field}""#⟩,
    ⟨"$addToSet", "Returns an array of unique values in a group",
      r#"\$addToSet: "\$${1:field}""#⟩,
    ⟨"$count", "Returns the count of documents", r"\$count: {}"⟩
  ]

end Entry

end QueryShell.Completion
