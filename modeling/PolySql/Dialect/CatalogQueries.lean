import PolySql.Value

namespace PolySql

-- A statement with the values of its placeholders.
structure Command where
  sql : String
  params : List Value

-- The texts of a vendor's catalog queries. All but the first two take the table's stored name as their
-- only parameter, and every one answers in the vendor-neutral shape that `Schema` reads.
structure CatalogQueries where
  serverVersion : String
  tableNames : String
  columns : String
  primaryKey : String
  indices : String
  foreignKeys : String

namespace CatalogQueries

def forTable (sql table : String) : Command :=
  ⟨sql, [.text table]⟩

def postgres : CatalogQueries where
  serverVersion :=
    "SELECT current_setting('server_version')"
  tableNames :=
    "SELECT table_name::text FROM information_schema.tables WHERE table_schema = " ++
    "current_schema() AND table_type = 'BASE TABLE' ORDER BY table_name"
  columns :=
    "SELECT a.attname::text, format_type(a.atttypid, a.atttypmod), CASE WHEN a.attnotnull THEN 0 " ++
    "ELSE 1 END, pg_get_expr(d.adbin, d.adrelid) FROM pg_attribute a LEFT JOIN pg_attrdef d ON " ++
    "d.adrelid = a.attrelid AND d.adnum = a.attnum WHERE a.attrelid = " ++
    "to_regclass(quote_ident($1)) AND a.attnum > 0 AND NOT a.attisdropped ORDER BY a.attnum"
  primaryKey :=
    "SELECT a.attname::text FROM pg_index i CROSS JOIN LATERAL unnest(i.indkey) WITH ORDINALITY " ++
    "AS k(attnum, ord) JOIN pg_attribute a ON a.attrelid = i.indrelid AND a.attnum = k.attnum " ++
    "WHERE i.indrelid = to_regclass(quote_ident($1)) AND i.indisprimary ORDER BY k.ord"
  indices :=
    "SELECT c.relname::text, a.attname::text, CASE WHEN i.indisunique THEN 1 ELSE 0 END FROM " ++
    "pg_index i JOIN pg_class c ON c.oid = i.indexrelid CROSS JOIN LATERAL unnest(i.indkey) WITH " ++
    "ORDINALITY AS k(attnum, ord) JOIN pg_attribute a ON a.attrelid = i.indrelid AND a.attnum = " ++
    "k.attnum WHERE i.indrelid = to_regclass(quote_ident($1)) AND NOT i.indisprimary ORDER BY " ++
    "c.relname, k.ord"
  foreignKeys :=
    "SELECT con.conname::text, a.attname::text, rc.relname::text, ra.attname::text FROM " ++
    "pg_constraint con CROSS JOIN LATERAL unnest(con.conkey, con.confkey) WITH ORDINALITY AS " ++
    "k(attnum, refnum, ord) JOIN pg_attribute a ON a.attrelid = con.conrelid AND a.attnum = " ++
    "k.attnum JOIN pg_class rc ON rc.oid = con.confrelid JOIN pg_attribute ra ON ra.attrelid = " ++
    "con.confrelid AND ra.attnum = k.refnum WHERE con.contype = 'f' AND con.conrelid = " ++
    "to_regclass(quote_ident($1)) ORDER BY con.conname, k.ord"

def mySql : CatalogQueries where
  serverVersion :=
    "SELECT VERSION()"
  tableNames :=
    "SELECT table_name FROM information_schema.tables WHERE table_schema = DATABASE() AND " ++
    "table_type = 'BASE TABLE' ORDER BY table_name"
  columns :=
    "SELECT column_name, column_type, CASE WHEN is_nullable = 'YES' THEN 1 ELSE 0 END, " ++
    "column_default FROM information_schema.columns WHERE table_schema = DATABASE() AND " ++
    "table_name = ? ORDER BY ordinal_position"
  primaryKey :=
    "SELECT column_name FROM information_schema.key_column_usage WHERE table_schema = DATABASE() " ++
    "AND table_name = ? AND constraint_name = 'PRIMARY' ORDER BY ordinal_position"
  indices :=
    "SELECT index_name, column_name, CASE WHEN non_unique = 0 THEN 1 ELSE 0 END FROM " ++
    "information_schema.statistics WHERE table_schema = DATABASE() AND table_name = ? AND " ++
    "index_name <> 'PRIMARY' ORDER BY index_name, seq_in_index"
  foreignKeys :=
    "SELECT constraint_name, column_name, referenced_table_name, referenced_column_name FROM " ++
    "information_schema.key_column_usage WHERE table_schema = DATABASE() AND table_name = ? AND " ++
    "referenced_table_name IS NOT NULL ORDER BY constraint_name, ordinal_position"

def sqlite : CatalogQueries where
  serverVersion :=
    "SELECT sqlite_version()"
  tableNames :=
    "SELECT name FROM sqlite_master WHERE type = 'table' AND name NOT LIKE 'sqlite_%' ORDER BY " ++
    "name"
  columns :=
    "SELECT name, type, CASE WHEN \"notnull\" = 0 AND pk = 0 THEN 1 ELSE 0 END, dflt_value FROM " ++
    "pragma_table_info(?) ORDER BY cid"
  primaryKey :=
    "SELECT name FROM pragma_table_info(?) WHERE pk > 0 ORDER BY pk"
  indices :=
    "SELECT il.name, ii.name, il.\"unique\" FROM pragma_index_list(?) AS il, " ++
    "pragma_index_info(il.name) AS ii WHERE il.origin <> 'pk' ORDER BY il.name, ii.seqno"
  foreignKeys :=
    "SELECT id, \"from\", \"table\", \"to\" FROM pragma_foreign_key_list(?) ORDER BY id, seq"

def sqlServer : CatalogQueries where
  serverVersion :=
    "SELECT CAST(SERVERPROPERTY('ProductVersion') AS NVARCHAR(128))"
  tableNames :=
    "SELECT name FROM sys.tables WHERE schema_id = SCHEMA_ID() ORDER BY name"
  columns :=
    "SELECT c.name, TYPE_NAME(c.user_type_id), CAST(c.is_nullable AS INT), " ++
    "OBJECT_DEFINITION(c.default_object_id) FROM sys.columns c WHERE c.object_id = " ++
    "OBJECT_ID(QUOTENAME(@P1)) ORDER BY c.column_id"
  primaryKey :=
    "SELECT c.name FROM sys.indexes i JOIN sys.index_columns ic ON ic.object_id = i.object_id " ++
    "AND ic.index_id = i.index_id JOIN sys.columns c ON c.object_id = ic.object_id AND " ++
    "c.column_id = ic.column_id WHERE i.object_id = OBJECT_ID(QUOTENAME(@P1)) AND " ++
    "i.is_primary_key = 1 ORDER BY ic.key_ordinal"
  indices :=
    "SELECT i.name, c.name, CAST(i.is_unique AS INT) FROM sys.indexes i JOIN sys.index_columns " ++
    "ic ON ic.object_id = i.object_id AND ic.index_id = i.index_id JOIN sys.columns c ON " ++
    "c.object_id = ic.object_id AND c.column_id = ic.column_id WHERE i.object_id = " ++
    "OBJECT_ID(QUOTENAME(@P1)) AND i.is_primary_key = 0 AND i.type > 0 ORDER BY i.name, " ++
    "ic.key_ordinal"
  foreignKeys :=
    "SELECT fk.name, pc.name, rt.name, rc.name FROM sys.foreign_keys fk JOIN " ++
    "sys.foreign_key_columns fkc ON fkc.constraint_object_id = fk.object_id JOIN sys.columns pc " ++
    "ON pc.object_id = fkc.parent_object_id AND pc.column_id = fkc.parent_column_id JOIN " ++
    "sys.tables rt ON rt.object_id = fkc.referenced_object_id JOIN sys.columns rc ON " ++
    "rc.object_id = fkc.referenced_object_id AND rc.column_id = fkc.referenced_column_id WHERE " ++
    "fk.parent_object_id = OBJECT_ID(QUOTENAME(@P1)) ORDER BY fk.name, fkc.constraint_column_id"

def oracle : CatalogQueries where
  serverVersion :=
    "SELECT version FROM product_component_version WHERE product LIKE 'Oracle%' FETCH FIRST 1 " ++
    "ROWS ONLY"
  tableNames :=
    "SELECT table_name FROM user_tables ORDER BY table_name"
  columns :=
    "SELECT column_name, data_type, CASE WHEN nullable = 'Y' THEN 1 ELSE 0 END, data_default " ++
    "FROM user_tab_columns WHERE table_name = :1 ORDER BY column_id"
  primaryKey :=
    "SELECT cc.column_name FROM user_constraints c JOIN user_cons_columns cc ON " ++
    "cc.constraint_name = c.constraint_name WHERE c.table_name = :1 AND c.constraint_type = 'P' " ++
    "ORDER BY cc.position"
  indices :=
    "SELECT i.index_name, ic.column_name, CASE WHEN i.uniqueness = 'UNIQUE' THEN 1 ELSE 0 END " ++
    "FROM user_indexes i JOIN user_ind_columns ic ON ic.index_name = i.index_name WHERE " ++
    "i.table_name = :1 AND NOT EXISTS (SELECT 1 FROM user_constraints c WHERE c.index_name = " ++
    "i.index_name AND c.constraint_type = 'P') ORDER BY i.index_name, ic.column_position"
  foreignKeys :=
    "SELECT c.constraint_name, cc.column_name, rc.table_name, rcc.column_name FROM " ++
    "user_constraints c JOIN user_cons_columns cc ON cc.constraint_name = c.constraint_name JOIN " ++
    "user_constraints rc ON rc.constraint_name = c.r_constraint_name JOIN user_cons_columns rcc " ++
    "ON rcc.constraint_name = rc.constraint_name AND rcc.position = cc.position WHERE " ++
    "c.table_name = :1 AND c.constraint_type = 'R' ORDER BY c.constraint_name, cc.position"

end CatalogQueries

end PolySql
