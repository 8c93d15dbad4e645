import NamePattern.Name
import NamePattern.Component.Escaped

/-! Names written as URIs. -/
namespace NamePattern.Name

/-- The text after a scheme. A colon ends a scheme if it comes before the first slash. -/
def dropScheme (uri : List Char) : List Char :=
  match uri.dropWhile fun c => c != ':' && c != '/' with
  | ':' :: rest => Component.trim rest
  | _ => uri

/-- The path of a URI without its scheme: what follows the first slash, or, if the text opens
with two slashes, what follows the authority. An authority alone has no path. -/
def pathOf? : List Char → Option (List Char)
  | '/' :: '/' :: rest =>
    match rest.dropWhile (· != '/') with
    | [] => none
    | _ :: path => some (Component.trim path)
  | '/' :: rest => some (Component.trim rest)
  | path => some path

/-- Reads a URI such as `/site/page.txt` or `scheme:/site/page.txt`. Every text can be read: path
segments that name no component are skipped. -/
def ofUri (uri : List Char) : Name :=
  match pathOf? (dropScheme (Component.trim uri)) with
  | none => empty
  | some path => ⟨(path.splitOn '/').filterMap Component.ofEscaped?⟩

/-- The canonical URI: a slash and the escaped form for each component, or a lone slash. -/
def toUri (n : Name) : List Char :=
  if n.isEmpty then ['/'] else n.components.flatMap fun c => '/' :: c.escaped

/-- How a name is shown to a reader. -/
def display (n : Name) : String := "Name(" ++ String.ofList n.toUri ++ ")"

end NamePattern.Name
