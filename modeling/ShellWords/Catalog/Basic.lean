import ShellWords.Catalog.PluralRule

/-!
Message catalogs: wordings by message, and forms of counted messages by number of the form. The
catalogs of several languages stand in a row; what one lacks is looked up in the next, and a message
that all lack stays as it is.
-/
namespace ShellWords

/-- A message, or a form of a counted message. -/
inductive CatalogKey
  | message (id : Text)
  | form (id : Text) (index : Int)
  deriving DecidableEq, Repr

/-- Later entries come first, so they count. -/
structure Catalog where
  entries : List (CatalogKey × Text) := []
  plural : PluralRule := .standard
  deriving Repr

namespace Catalog

def find? (c : Catalog) (key : CatalogKey) : Option Text := c.entries.lookup key

/-- The wording of a message in the first catalog that has it. Only later versions of the library
take the singular of a counted message for one that a catalog has; the form for one thing counts
then, and picking it may fail. -/
def translate (singularCounts : Bool) (catalogs : List Catalog) (id : Text) :
    Except PluralFault Text :=
  match catalogs with
  | [] => .ok id
  | c :: others =>
    match c.find? (.message id) with
    | some t => .ok t
    | none =>
      if singularCounts then
        match c.plural.form 1 with
        | .error fault => .error fault
        | .ok index =>
          match c.find? (.form id index) with
          | some t => .ok t
          | none => translate singularCounts others id
      else translate singularCounts others id

/-- The form of a counted message that the rule of the first catalog with such a form picks. -/
def translateCounted (catalogs : List Catalog) (singular plural : Text) (n : Int) :
    Except PluralFault Text :=
  match catalogs with
  | [] => .ok (if n = 1 then singular else plural)
  | c :: others =>
    match c.plural.form n with
    | .error fault => .error fault
    | .ok index =>
      match c.find? (.form singular index) with
      | some t => .ok t
      | none => translateCounted others singular plural n

end Catalog

end ShellWords
