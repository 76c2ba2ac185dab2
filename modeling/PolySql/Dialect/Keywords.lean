namespace PolySql.Keywords

-- Reserved by the standard and by every vendor.
def common : List String := [
  "ALL", "ALTER", "AND", "ANY", "AS", "ASC", "BETWEEN", "BY", "CASE", "CAST", "CHECK",
  "COLUMN", "CONSTRAINT", "CREATE", "CROSS", "CURRENT", "CURRENT_DATE", "CURRENT_TIME",
  "CURRENT_TIMESTAMP", "CURRENT_USER", "DEFAULT", "DELETE", "DESC", "DISTINCT", "DROP", "ELSE",
  "END", "EXCEPT", "EXISTS", "FALSE", "FETCH", "FOR", "FOREIGN", "FROM", "FULL", "GRANT",
  "GROUP", "HAVING", "IN", "INNER", "INSERT", "INTERSECT", "INTO", "IS", "JOIN", "LEFT",
  "LIKE", "NATURAL", "NOT", "NULL", "ON", "OR", "ORDER", "OUTER", "PRIMARY", "REFERENCES",
  "RIGHT", "SELECT", "SESSION_USER", "SET", "SOME", "TABLE", "THEN", "TO", "TRUE", "UNION",
  "UNIQUE", "UPDATE", "USER", "USING", "VALUES", "WHEN", "WHERE", "WITH"]

def postgres : List String := [
  "ANALYSE", "ANALYZE", "ARRAY", "ASYMMETRIC", "BOTH", "COLLATE", "DEFERRABLE", "DO",
  "INITIALLY", "LATERAL", "LEADING", "LIMIT", "LOCALTIME", "LOCALTIMESTAMP", "OFFSET", "ONLY",
  "PLACING", "RETURNING", "SYMMETRIC", "TRAILING", "VARIADIC", "WINDOW"]

def mySql : List String := [
  "ACCESSIBLE", "ANALYZE", "CHANGE", "DATABASE", "DATABASES", "DELAYED", "DIV", "DUAL",
  "EXPLAIN", "FORCE", "FULLTEXT", "GROUPS", "IGNORE", "INDEX", "INTERVAL", "KEY", "KEYS",
  "KILL", "LIMIT", "LOCK", "MOD", "OPTIMIZE", "RANGE", "RANK", "READ", "REGEXP", "RENAME",
  "REPLACE", "REQUIRE", "ROW_NUMBER", "SCHEMA", "SHOW", "SPATIAL", "STRAIGHT_JOIN", "TRIGGER",
  "UNLOCK", "UNSIGNED", "USAGE", "WINDOW", "WRITE", "XOR", "ZEROFILL"]

def sqlite : List String := [
  "ABORT", "AUTOINCREMENT", "BEGIN", "COLLATE", "COMMIT", "CONFLICT", "DEFERRABLE", "DETACH",
  "ESCAPE", "EXCLUSIVE", "EXPLAIN", "GLOB", "IF", "IGNORE", "INDEX", "INDEXED", "ISNULL",
  "LIMIT", "MATCH", "NOTNULL", "OFFSET", "PRAGMA", "RAISE", "REGEXP", "REINDEX", "RELEASE",
  "RENAME", "REPLACE", "ROLLBACK", "SAVEPOINT", "TRANSACTION", "TRIGGER", "VACUUM"]

def sqlServer : List String := [
  "BACKUP", "BREAK", "BROWSE", "BULK", "CHECKPOINT", "CLUSTERED", "COMPUTE", "CONTAINS",
  "CONTINUE", "DATABASE", "DBCC", "DEALLOCATE", "DENY", "DISK", "DISTRIBUTED", "DUMP", "EXEC",
  "EXECUTE", "EXIT", "FILE", "FILLFACTOR", "FREETEXT", "FUNCTION", "GOTO", "HOLDLOCK",
  "IDENTITY", "IDENTITYCOL", "IF", "INDEX", "KEY", "KILL", "LINENO", "LOAD", "MERGE",
  "NOCHECK", "NONCLUSTERED", "OFFSETS", "OPENQUERY", "OVER", "PERCENT", "PIVOT", "PLAN",
  "PRINT", "PROC", "PROCEDURE", "PUBLIC", "RAISERROR", "READTEXT", "RECONFIGURE",
  "REPLICATION", "RESTORE", "RETURN", "REVERT", "REVOKE", "ROWCOUNT", "ROWGUIDCOL", "RULE",
  "SAVE", "SCHEMA", "SHUTDOWN", "STATISTICS", "TEXTSIZE", "TOP", "TRAN", "TRANSACTION",
  "TRIGGER", "TRUNCATE", "TSEQUAL", "UNPIVOT", "UPDATETEXT", "USE", "VIEW", "WAITFOR", "WHILE",
  "WRITETEXT"]

def oracle : List String := [
  "ACCESS", "ADD", "AUDIT", "CLUSTER", "COMMENT", "COMPRESS", "CONNECT", "DATE", "DECIMAL",
  "EXCLUSIVE", "FILE", "FLOAT", "IDENTIFIED", "IMMEDIATE", "INCREMENT", "INDEX", "INITIAL",
  "INTEGER", "LEVEL", "LOCK", "LONG", "MAXEXTENTS", "MINUS", "MLSLABEL", "MODE", "MODIFY",
  "NOAUDIT", "NOCOMPRESS", "NOWAIT", "NUMBER", "OF", "OFFLINE", "ONLINE", "OPTION", "PCTFREE",
  "PRIOR", "PRIVILEGES", "PUBLIC", "RAW", "RENAME", "RESOURCE", "REVOKE", "ROW", "ROWID",
  "ROWNUM", "ROWS", "SESSION", "SHARE", "SIZE", "SMALLINT", "START", "SUCCESSFUL", "SYNONYM",
  "SYSDATE", "TRIGGER", "UID", "VALIDATE", "VARCHAR", "VARCHAR2", "VIEW", "WHENEVER"]

end PolySql.Keywords
