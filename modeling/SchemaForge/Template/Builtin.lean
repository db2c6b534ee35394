import SchemaForge.Template.Placeholder

/-!
# Templates that come with the program

The class around a migration, the class around a seeder, and a wrapper for each action, which holds
the bodies of both methods.
-/

namespace SchemaForge.Template

/-- The name of the template of migration classes. -/
def migrationName : String := "migration"

/-- The name of the template of seeder classes. -/
def seederName : String := "seeder"

/-- The class around a migration. -/
def migrationText : String :=
  "<?php\n\n" ++
  "use Illuminate\\Database\\Migrations\\Migration;\n" ++
  "use Illuminate\\Database\\Schema\\Blueprint;\n" ++
  "use Illuminate\\Support\\Facades\\DB;\n" ++
  "use Illuminate\\Support\\Facades\\Schema;\n\n" ++
  "class \x7b\x7bclass\x7d\x7d extends Migration\n\x7b\n" ++
  "    /**\n     * Run the migrations.\n     *\n     * @return void\n     */\n" ++
  "    public function up()\n    \x7b\n        \x7b\x7bschema_up\x7d\x7d\n    \x7d\n\n" ++
  "    /**\n     * Reverse the migrations.\n     *\n     * @return void\n     */\n" ++
  "    public function down()\n    \x7b\n        \x7b\x7bschema_down\x7d\x7d\n    \x7d\n\x7d\n"

/-- The class around a seeder. -/
def seederText : String :=
  "<?php\n\n" ++
  "use Illuminate\\Database\\Seeder;\n\n" ++
  "class \x7b\x7bclass\x7d\x7d extends Seeder\n\x7b\n" ++
  "    /**\n     * Run the database seeds.\n     *\n     * @return void\n     */\n" ++
  "    public function run()\n    \x7b\n        \x7b\x7bcontent\x7d\x7d\n    \x7d\n\x7d\n"

/-- The wrapper of actions that change a table through the schema builder's given method. -/
def tableWrapperText (method : String) : String :=
  "Schema::" ++ method ++ "('\x7b\x7btable\x7d\x7d', function (Blueprint $table) \x7b\n" ++
  "            \x7b\x7bschema_up\x7d\x7d\x7b\x7bschema_down\x7d\x7d\n        \x7d);\n"

/-- The wrapper of actions that run raw statements. -/
def routineWrapperText : String := "\x7b\x7bschema_up\x7d\x7d\x7b\x7bschema_down\x7d\x7d\n"

/-- The text of the template with a given name. -/
def builtin? (name : String) : Option String :=
  if name = migrationName then some migrationText
  else if name = seederName then some seederText
  else if name = "schema-create" then some (tableWrapperText "create")
  else if name = "schema-create-function" then some routineWrapperText
  else if name = "schema-create-trigger" then some routineWrapperText
  else if name = "schema-update" then some (tableWrapperText "table")
  else if name = "schema-remove" then some (tableWrapperText "table")
  else none

end SchemaForge.Template
