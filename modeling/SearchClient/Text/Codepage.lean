set_option autoImplicit false

/-! # Pages of characters

A page gives the upper half of the octets their characters, in the order of the octets; the lower
half is ASCII. An octet without a character has the replacement character. -/

namespace SearchClient.Text.Codepage

/-- The page of Western European letters with typographic signs. -/
def western : String :=
  "€\ufffd‚ƒ„…†‡ˆ‰Š‹Œ\ufffdŽ\ufffd\ufffd‘’“”•–—˜™š›œ\ufffdžŸ" ++
    "\u00a0¡¢£¤¥¦§¨©ª«¬\u00ad®¯°±²³´µ¶·¸¹º»¼½¾¿" ++
    "ÀÁÂÃÄÅÆÇÈÉÊËÌÍÎÏÐÑÒÓÔÕÖ×ØÙÚÛÜÝÞß" ++
    "àáâãäåæçèéêëìíîïðñòóôõö÷øùúûüýþÿ"

/-- The page of Western European letters with the euro sign. -/
def westernEuro : String :=
  "\u0080\u0081\u0082\u0083\u0084\u0085\u0086\u0087" ++
    "\u0088\u0089\u008a\u008b\u008c\u008d\u008e\u008f" ++
    "\u0090\u0091\u0092\u0093\u0094\u0095\u0096\u0097" ++
    "\u0098\u0099\u009a\u009b\u009c\u009d\u009e\u009f\u00a0¡¢£€¥Š§š©ª«¬\u00ad®¯°±²³Žµ¶·" ++
    "ž¹º»ŒœŸ¿ÀÁÂÃÄÅÆÇÈÉÊËÌÍÎÏÐÑÒÓÔÕÖ×" ++
    "ØÙÚÛÜÝÞßàáâãäåæçèéêëìíîïðñòóôõö÷" ++
    "øùúûüýþÿ"

/-- The page of Central European letters with typographic signs. -/
def central : String :=
  "€\ufffd‚\ufffd„…†‡\ufffd‰Š‹ŚŤŽŹ\ufffd‘’“”•–—\ufffd™š›śťžź" ++
    "\u00a0ˇ˘Ł¤Ą¦§¨©Ş«¬\u00ad®Ż°±˛ł´µ¶·¸ąş»Ľ˝ľż" ++
    "ŔÁÂĂÄĹĆÇČÉĘËĚÍÎĎĐŃŇÓÔŐÖ×ŘŮÚŰÜÝŢß" ++
    "ŕáâăäĺćçčéęëěíîďđńňóôőö÷řůúűüýţ˙"

/-- The page of Cyrillic letters with typographic signs. -/
def cyrillic : String :=
  "ЂЃ‚ѓ„…†‡€‰Љ‹ЊЌЋЏђ‘’“”•–—\ufffd™љ›њќћџ" ++
    "\u00a0ЎўЈ¤Ґ¦§Ё©Є«¬\u00ad®Ї°±Ііґµ¶·ё№є»јЅѕї" ++
    "АБВГДЕЖЗИЙКЛМНОПРСТУФХЦЧШЩЪЫЬЭЮЯ" ++
    "абвгдежзийклмнопрстуфхцчшщъыьэюя"

/-- The page of Cyrillic letters whose low bits spell Latin ones. -/
def cyrillicPaired : String :=
  "─│┌┐└┘├┤┬┴┼▀▄█▌▐░▒▓⌠■∙√≈≤≥\u00a0⌡°²·÷" ++
    "═║╒ё╓╔╕╖╗╘╙╚╛╜╝╞╟╠╡Ё╢╣╤╥╦╧╨╩╪╫╬©" ++
    "юабцдефгхийклмнопярстужвьызшэщчъ" ++
    "ЮАБЦДЕФГХИЙКЛМНОПЯРСТУЖВЬЫЗШЭЩЧЪ"

/-- The page of letters with boxes. -/
def boxes : String :=
  "ÇüéâäàåçêëèïîìÄÅÉæÆôöòûùÿÖÜ¢£¥₧ƒ" ++
    "áíóúñÑªº¿⌐¬½¼¡«»░▒▓│┤╡╢╖╕╣║╗╝╜╛┐" ++
    "└┴┬├─┼╞╟╚╔╩╦╠═╬╧╨╤╥╙╘╒╓╫╪┘┌█▄▌▐▀" ++
    "αßΓπΣσµτΦΘΩδ∞φε∩≡±≥≤⌠⌡÷≈°∙·√ⁿ²■\u00a0"

/-- The page of Western European letters with boxes. -/
def boxesWestern : String :=
  "ÇüéâäàåçêëèïîìÄÅÉæÆôöòûùÿÖÜø£Ø×ƒ" ++
    "áíóúñÑªº¿®¬½¼¡«»░▒▓│┤ÁÂÀ©╣║╗╝¢¥┐" ++
    "└┴┬├─┼ãÃ╚╔╩╦╠═╬¤ðÐÊËÈıÍÎÏ┘┌█▄¦Ì▀" ++
    "ÓßÔÒõÕµþÞÚÛÙýÝ¯´\u00ad±‗¾¶§÷¸°¨·¹³²■\u00a0"

/-- The character that a page gives an octet, if there is one. -/
def charOf? (page : String) (b : UInt8) : Option Char :=
  if b < 0x80 then some (Char.ofNat b.toNat)
  else (page.toList[b.toNat - 0x80]?).filter (· ≠ '\ufffd')

end SearchClient.Text.Codepage
