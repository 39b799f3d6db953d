import Scriptlet.Host.Function
import Scriptlet.Binary.Arithmetic

/-
  A catalog of host functions: one for each way a host function can take its arguments, answer,
  refuse, and turn back to the interpreter. Each is made under the name it is registered as.
-/

namespace Scriptlet.Catalog

open HostAction

/-- The root that the functions turn back to. -/
def home : ScopeId := .made 0

/-- A refusal of a converted argument. -/
def refused (message : String) : HostAction :=
  fail (.diagnostic { kind := .conversion, message := message })

/-- A function of the catalog: its name there, and how it is made under another name. -/
structure Item where
  id : String
  make : String → HostFunction

/-- An item with typed parameters. -/
def item (id : String) (types : List ParamType) (body : Arguments types → HostAction) : Item :=
  ⟨id, fun name => .typed name types body⟩

/-- An item without parameters that always yields the same value. -/
def constant (id : String) (v : Value) : Item :=
  item id [] fun _ => value v

/-- The numbers and texts in a row, with bars between them. -/
def mixedText (count : Int) (label : String) (flag : Bool) (v : Value) : String :=
  "|".intercalate
    [toString count, label, (Value.bool flag).text, v.type.label ++ ":" ++ v.text]

/-- A failure that points somewhere else than the call. -/
def spannedFailure : Failure :=
  .diagnostic
    { kind := .arithmetic, message := "spanned failure", span := some ⟨3, 9⟩,
      expected := ["alpha", "beta"], notes := ["from the host"] }

/-- The items of the catalog. -/
def items : List Item :=
  [constant "answer" (.number 42),
   item "twice" [.single] fun (x, _) => value (.number (x * 2)),
   item "sub" [.single, .single] fun (a, b, _) => value (.number (a - b)),
   item "third64" [.double] fun (x, _) => value (.ofDouble (x / 3)),
   item "half32" [.int32] fun (n, _) => value (.ofInt (Int.tdiv n 2)),
   item "id32" [.int32] fun (n, _) => value (.ofInt n),
   item "id64" [.int64] fun (n, _) => value (.ofInt n),
   item "flip" [.bool] fun (b, _) => value (.bool !b),
   item "bracket" [.string] fun (t, _) => value (.string ("<" ++ t ++ ">")),
   item "join4" [.string, .string, .string, .string] fun (a, b, c, d, _) =>
     value (.string (a ++ b ++ c ++ d)),
   item "mixed4" [.int64, .string, .bool, .value] fun (c, l, b, v, _) =>
     value (.string (mixedText c l b v)),
   item "pick3" [.bool, .value, .value] fun (c, a, b, _) => value (if c then a else b),
   item "same" [.value] fun (v, _) => value v,
   item "typeof" [.value] fun (v, _) => value (.string v.type.label),
   item "ignore" [.value] fun _ => value .void,
   constant "nothing" .void,
   item "positive" [.single] fun (x, _) =>
     value (if Binary.below 0 x then .number x else .null),
   item "maybe_unit" [.bool] fun (b, _) => value (if b then .void else .null),
   item "checked" [.single] fun (x, _) =>
     if x.below 0 then refused "negative input" else value (.number (x + 1)),
   item "checked_opt" [.single] fun (x, _) =>
     if x.below 0 then refused "negative input"
     else value (if Binary.below 0 x then .bool true else .null),
   item "fail_spanned" [] fun _ => fail spannedFailure,
   item "fail_io" [] fun _ => fail (.io "disk on fire"),
   constant "max_i64" (.ofInt Binary.range64.2),
   constant "min_i32" (.ofInt Binary.range32.1),
   constant "tenth64" (.ofDouble (Decimal.toBinary .double ⟨false, 1, -1⟩)),
   constant "huge64" (.ofDouble (Decimal.toBinary .double ⟨false, 1, 300⟩)),
   constant "static" (.string "static text"),
   item "log" [.string] fun (t, _) => record (.note t) (value (.bool true)),
   item "apply" [.string, .value] fun (f, v, _) => .ask (.call home f [v]) nofun .done,
   item "eval" [.string] fun (source, _) => .ask (.execute home source) nofun .done,
   ⟨"count", fun name => .variadic name fun args => value (.ofInt args.length)⟩,
   ⟨"last", fun name => .variadic name fun args => value (args.getLast?.getD .null)⟩,
   ⟨"raw2", fun name => ⟨name, some [.integer, .any], fun args =>
     value (args.head?.getD .null)⟩⟩]

/-- The function of the catalog with the given name, made under another name. -/
def find? (id name : String) : Option HostFunction :=
  (items.find? (·.id == id)).map (·.make name)

end Scriptlet.Catalog
