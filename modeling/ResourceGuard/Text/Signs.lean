/-! # Signs that frame a text

Quotes and braces, by name. -/
namespace ResourceGuard

/-- The double quotation mark. -/
def quote : Char := '\x22'

/-- The single quotation mark. -/
def apostrophe : Char := '\x27'

def openBrace : Char := '\x7b'

def closeBrace : Char := '\x7d'

end ResourceGuard
