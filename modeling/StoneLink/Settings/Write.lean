import StoneLink.Settings
import StoneLink.Yaml.Print

/-!
# Writing settings

Spheres are written as the `spheres:` section of a settings file: a sequence indented by four,
each entry a mapping of `id`, `short_id` and `keys`, and the keys mapping holding only the keys
that are set, in role order, or `{}` when none is. Strings are written as the printer chooses;
an id is written as the text it shows.
A literal block that ends in more than one line break leaves the document open until the next
indicator is written; when such a block is the last value of the text, the text ends with the
marker `...`.
-/

namespace StoneLink.Settings

/-- A key and its string value at a column: the line or lines, ending in a line break, and
whether they leave the document open. -/
def line (column : Nat) (key value : String) : String × Bool :=
  let (text, open_) := Yaml.Print.value value column
  let body := String.ofList (List.replicate column ' ') ++ key ++ ":" ++ text
  let ends := match body.toList.getLast? with
    | some c => c = '\n' || c = '\u2028' || c = '\u2029'
    | none => false
  (if ends then body else body ++ "\n", open_)

/-- One sphere as an entry of the sequence, and whether its last value leaves the document
open. -/
def SphereEntry.render (s : SphereEntry) : String × Bool :=
  let (idLine, _) := line 6 "id" s.id.toString
  let idLine := "    - " ++ (idLine.drop 6).toString
  let keys := s.keys.entries.filter (!·.2.isEmpty)
  let keyLines := keys.map fun (k, v) => line 8 k v
  let keysText :=
    if keys.isEmpty then "      keys: \x7b\x7d\n"
    else "      keys:\n" ++ String.join (keyLines.map (·.1))
  (idLine ++ "      short_id: " ++ toString s.shortId.toNat ++ "\n" ++ keysText,
    (keyLines.getLast?.map (·.2)).getD false)

/-- The `spheres:` section holding the given spheres. -/
def renderSpheres (spheres : List SphereEntry) : String :=
  let parts := spheres.map SphereEntry.render
  let body := if spheres.isEmpty then "spheres: []\n"
    else "spheres:\n" ++ String.join (parts.map (·.1))
  if (parts.getLast?.map (·.2)).getD false then body ++ "...\n" else body

end StoneLink.Settings
