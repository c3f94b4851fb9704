import Stencil.Text.Category

/-!
Texts between double quotes as error messages show them: quotes, backslashes and line ends are escaped,
and so is every character that does not show on its own.
-/
namespace Stencil.Text.Quoted

def codeForm (c : Char) : List Char :=
  ['\\', 'u', '\x7b'] ++ Nat.toDigits 16 c.toNat ++ ['\x7d']

def charForm (c : Char) : List Char :=
  if c = '"' then ['\\', '"']
  else if c = '\\' then ['\\', '\\']
  else if c = '\n' then ['\\', 'n']
  else if c = '\r' then ['\\', 'r']
  else if c = '\t' then ['\\', 't']
  else if c.toNat = 0 then ['\\', '0']
  else if extendsGrapheme c || !isShown c then codeForm c
  else [c]

def quoted (text : String) : String :=
  String.ofList ('"' :: text.toList.flatMap charForm ++ ['"'])

end Stencil.Text.Quoted
