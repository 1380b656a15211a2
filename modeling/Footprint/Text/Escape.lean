namespace Footprint.Text

def escapeField : List Char → List Char
  | [] => []
  | '\\' :: rest => '\\' :: '\\' :: escapeField rest
  | '\n' :: rest => '\\' :: 'n' :: escapeField rest
  | '\t' :: rest => '\\' :: 't' :: escapeField rest
  | c :: rest => c :: escapeField rest

def unescapeField : List Char → List Char
  | '\\' :: 'n' :: rest => '\n' :: unescapeField rest
  | '\\' :: 't' :: rest => '\t' :: unescapeField rest
  | '\\' :: c :: rest => c :: unescapeField rest
  | c :: rest => c :: unescapeField rest
  | [] => []

end Footprint.Text
