import ClusterSurvey.Text.Graphic

/-! Text in double quotes as an error message shows it: quotes and backslashes are escaped, the
common controls have short escapes, and whatever does not show as itself is written by its code
point. -/
namespace ClusterSurvey.Text

def escaped (c : Char) : List Char :=
  if c = '"' then ['\\', '"']
  else if c = '\\' then ['\\', '\\']
  else if c = '\t' then ['\\', 't']
  else if c = '\r' then ['\\', 'r']
  else if c = '\n' then ['\\', 'n']
  else if c = '\x00' then ['\\', '0']
  else if isGraphic c then [c]
  else "\\u\x7b".toList ++ Nat.toDigits 16 c.toNat ++ ['\x7d']

def quoted (s : String) : String := String.ofList ('"' :: s.toList.flatMap escaped ++ ['"'])

end ClusterSurvey.Text
