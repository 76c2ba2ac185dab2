import PolySql.Document.Basic
import PolySql.Schema.Spec

namespace PolySql.Document

def columnSpec (d : Document) : Reader ColumnSpec := do
  return ⟨← (d.field "name").string, ← (d.field "type_name").string, d.flag "is_nullable",
    ← (d.field "default_value").optional string⟩

def indexSpec (d : Document) : Reader IndexSpec := do
  return ⟨← (d.field "name").string, ← (d.field "columns").strings, d.flag "is_unique"⟩

def foreignKeySpec (d : Document) : Reader ForeignKeySpec := do
  return ⟨← (d.field "name").string, ← (d.field "columns").strings,
    ← (d.field "foreign_table").string, ← (d.field "foreign_columns").strings⟩

def tableSpec (d : Document) : Reader TableSpec := do
  return ⟨← (d.field "name").string, ← (d.field "columns").listOf columnSpec,
    ← (d.field "primary_key").strings, ← (d.field "indices").listOf indexSpec,
    ← (d.field "foreign_keys").listOf foreignKeySpec⟩

def databaseSpec (d : Document) : Reader DatabaseSpec := do
  return ⟨← (d.field "tables").listOf tableSpec⟩

end PolySql.Document
