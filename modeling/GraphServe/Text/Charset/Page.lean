/-!
# Code pages

A code page gives a character to each byte; all agree on the bytes up to 127.

* `Charset.Page` has one constructor for each page.
* `Page.char` is the character of a byte.
-/

namespace GraphServe.Text.Charset

/-- A code page. -/
inductive Page where
  | ibm866 | latin2 | latin3 | latin4 | cyrillic | arabic
  | greek | hebrew | latin6 | latin7 | latin8 | latin9
  | latin10 | koi8r | koi8u | macRoman | macCyrillic | windows874
  | windows1250 | windows1251 | windows1252 | windows1253 | windows1254 | windows1255
  | windows1256 | windows1257 | windows1258
deriving DecidableEq, Repr, Inhabited

namespace Page

/-- The controls from 128 to 159, which many pages keep. -/
def controls : String :=
  "\x80\x81\x82\x83\x84\x85\x86\x87\x88\x89\x8A\x8B\x8C\x8D\x8E\x8F" ++
  "\x90\x91\x92\x93\x94\x95\x96\x97\x98\x99\x9A\x9B\x9C\x9D\x9E\x9F"

/-- The characters of the bytes from 128, row by row; a full stop marks a byte that has none. -/
def rows : Page → List String
  | .ibm866 =>
      ["АБВГДЕЖЗИЙКЛМНОПРСТУФХЦЧШЩЪЫЬЭЮЯабвгдежзийклмноп░▒▓│┤╡╢╖╕╣║╗╝╜╛┐└┴┬├─┼╞╟╚╔╩╦╠═╬╧╨╤╥╙╘╒╓╫╪",
       "┘┌█▄▌▐▀рстуфхцчшщъыьэюяЁёЄєЇїЎў°∙·√№¤■\xA0"]
  | .latin2 =>
      controls :: ["\xA0Ą˘Ł¤ĽŚ§¨ŠŞŤŹ\xADŽŻ°ą˛ł´ľśˇ¸šşťź˝žżŔÁÂĂÄĹĆÇČÉĘËĚÍÎĎĐŃŇÓÔŐÖ×ŘŮÚŰÜÝŢßŕáâăäĺć",
                   "çčéęëěíîďđńňóôőö÷řůúűüýţ˙"]
  | .latin3 =>
      controls :: ["\xA0Ħ˘£¤.Ĥ§¨İŞĞĴ\xAD.Ż°ħ²³´µĥ·¸ışğĵ½.żÀÁÂ.ÄĊĈÇÈÉÊËÌÍÎÏ.ÑÒÓÔĠÖ×ĜÙÚÛÜŬŜßàáâ.äċĉ",
                   "çèéêëìíîï.ñòóôġö÷ĝùúûüŭŝ˙"]
  | .latin4 =>
      controls :: ["\xA0ĄĸŖ¤ĨĻ§¨ŠĒĢŦ\xADŽ¯°ą˛ŗ´ĩļˇ¸šēģŧŊžŋĀÁÂÃÄÅÆĮČÉĘËĖÍÎĪĐŅŌĶÔÕÖ×ØŲÚÛÜŨŪßāáâãäåæ",
                   "įčéęëėíîīđņōķôõö÷øųúûüũū˙"]
  | .cyrillic =>
      controls :: ["\xA0ЁЂЃЄЅІЇЈЉЊЋЌ\xADЎЏАБВГДЕЖЗИЙКЛМНОПРСТУФХЦЧШЩЪЫЬЭЮЯабвгдежзийклмнопрстуфхц",
                   "чшщъыьэюя№ёђѓєѕіїјљњћќ§ўџ"]
  | .arabic =>
      controls :: ["\xA0...¤.......،\xAD.............؛...؟.ءآأؤإئابةتثجحخدذرزسشصضطظعغ.....ـفقكلمن",
                   "هوىي\u064B\u064C\u064D\u064E\u064F\u0650\u0651\u0652............."]
  | .greek =>
      controls :: ["\xA0‘’£€₯¦§¨©ͺ«¬\xAD.―°±²³΄΅Ά·ΈΉΊ»Ό½ΎΏΐΑΒΓΔΕΖΗΘΙΚΛΜΝΞΟΠΡ.ΣΤΥΦΧΨΩΪΫάέήίΰαβγδεζ",
                   "ηθικλμνξοπρςστυφχψωϊϋόύώ."]
  | .hebrew =>
      controls :: ["\xA0.¢£¤¥¦§¨©×«¬\xAD®¯°±²³´µ¶·¸¹÷»¼½¾................................‗אבגדהוז",
                   "חטיךכלםמןנסעףפץצקרשת..\u200E\u200F."]
  | .latin6 =>
      controls :: ["\xA0ĄĒĢĪĨĶ§ĻĐŠŦŽ\xADŪŊ°ąēģīĩķ·ļđšŧž―ūŋĀÁÂÃÄÅÆĮČÉĘËĖÍÎÏÐŅŌÓÔÕÖŨØŲÚÛÜÝÞßāáâãäåæ",
                   "įčéęëėíîïðņōóôõöũøųúûüýþĸ"]
  | .latin7 =>
      controls :: ["\xA0”¢£¤„¦§Ø©Ŗ«¬\xAD®Æ°±²³“µ¶·ø¹ŗ»¼½¾æĄĮĀĆÄÅĘĒČÉŹĖĢĶĪĻŠŃŅÓŌÕÖ×ŲŁŚŪÜŻŽßąįāćäåę",
                   "ēčéźėģķīļšńņóōõö÷ųłśūüżž’"]
  | .latin8 =>
      controls :: ["\xA0Ḃḃ£ĊċḊ§Ẁ©ẂḋỲ\xAD®ŸḞḟĠġṀṁ¶ṖẁṗẃṠỳẄẅṡÀÁÂÃÄÅÆÇÈÉÊËÌÍÎÏŴÑÒÓÔÕÖṪØÙÚÛÜÝŶßàáâãäåæ",
                   "çèéêëìíîïŵñòóôõöṫøùúûüýŷÿ"]
  | .latin9 =>
      controls :: ["\xA0¡¢£€¥Š§š©ª«¬\xAD®¯°±²³Žµ¶·ž¹º»ŒœŸ¿ÀÁÂÃÄÅÆÇÈÉÊËÌÍÎÏÐÑÒÓÔÕÖ×ØÙÚÛÜÝÞßàáâãäåæ",
                   "çèéêëìíîïðñòóôõö÷øùúûüýþÿ"]
  | .latin10 =>
      controls :: ["\xA0ĄąŁ€„Š§š©Ș«Ź\xADźŻ°±ČłŽ”¶·žčș»ŒœŸżÀÁÂĂÄĆÆÇÈÉÊËÌÍÎÏĐŃÒÓÔŐÖŚŰÙÚÛÜĘȚßàáâăäćæ",
                   "çèéêëìíîïđńòóôőöśűùúûüęțÿ"]
  | .koi8r =>
      ["─│┌┐└┘├┤┬┴┼▀▄█▌▐░▒▓⌠■∙√≈≤≥\xA0⌡°²·÷═║╒ё╓╔╕╖╗╘╙╚╛╜╝╞╟╠╡Ё╢╣╤╥╦╧╨╩╪╫╬©юабцдефгхийклмнопярсту",
       "жвьызшэщчъЮАБЦДЕФГХИЙКЛМНОПЯРСТУЖВЬЫЗШЭЩЧЪ"]
  | .koi8u =>
      ["─│┌┐└┘├┤┬┴┼▀▄█▌▐░▒▓⌠■∙√≈≤≥\xA0⌡°²·÷═║╒ёє╔ії╗╘╙╚╛ґў╞╟╠╡ЁЄ╣ІЇ╦╧╨╩╪ҐЎ©юабцдефгхийклмнопярсту",
       "жвьызшэщчъЮАБЦДЕФГХИЙКЛМНОПЯРСТУЖВЬЫЗШЭЩЧЪ"]
  | .macRoman =>
      ["ÄÅÇÉÑÖÜáàâäãåçéèêëíìîïñóòôöõúùûü†°¢£§•¶ß®©™´¨≠ÆØ∞±≤≥¥µ∂∑∏π∫ªºΩæø¿¡¬√ƒ≈∆«»…\xA0ÀÃÕŒœ–—“”‘’",
       "÷◊ÿŸ⁄€‹›ﬁﬂ‡·‚„‰ÂÊÁËÈÍÎÏÌÓÔ\uF8FFÒÚÛÙıˆ˜¯˘˙˚¸˝˛ˇ"]
  | .macCyrillic =>
      ["АБВГДЕЖЗИЙКЛМНОПРСТУФХЦЧШЩЪЫЬЭЮЯ†°Ґ£§•¶І®©™Ђђ≠Ѓѓ∞±≤≥іµґЈЄєЇїЉљЊњјЅ¬√ƒ≈∆«»…\xA0ЋћЌќѕ–—“”‘’",
       "÷„ЎўЏџ№Ёёяабвгдежзийклмнопрстуфхцчшщъыьэю€"]
  | .windows874 =>
      ["€\x81\x82\x83\x84…\x86\x87\x88\x89\x8A\x8B\x8C\x8D\x8E\x8F\x90‘’“”•–—\x98\x99\x9A\x9B\x9C",
       "\x9D\x9E\x9F\xA0กขฃคฅฆงจฉชซฌญฎฏฐฑฒณดตถทธนบปผฝพฟภมยรฤลฦวศษสหฬอฮฯะ\u0E31าำ\u0E34\u0E35",
       "\u0E36\u0E37\u0E38\u0E39\u0E3A....฿เแโใไๅๆ\u0E47\u0E48\u0E49\u0E4A\u0E4B\u0E4C\u0E4D",
       "\u0E4E๏๐๑๒๓๔๕๖๗๘๙๚๛...."]
  | .windows1250 =>
      ["€\x81‚\x83„…†‡\x88‰Š‹ŚŤŽŹ\x90‘’“”•–—\x98™š›śťžź\xA0ˇ˘Ł¤Ą¦§¨©Ş«¬\xAD®Ż°±˛ł´µ¶·¸ąş»Ľ˝ľżŔÁÂĂ",
       "ÄĹĆÇČÉĘËĚÍÎĎĐŃŇÓÔŐÖ×ŘŮÚŰÜÝŢßŕáâăäĺćçčéęëěíîďđńňóôőö÷řůúűüýţ˙"]
  | .windows1251 =>
      ["ЂЃ‚ѓ„…†‡€‰Љ‹ЊЌЋЏђ‘’“”•–—\x98™љ›њќћџ\xA0ЎўЈ¤Ґ¦§Ё©Є«¬\xAD®Ї°±Ііґµ¶·ё№є»јЅѕїАБВГДЕЖЗИЙКЛМНОП",
       "РСТУФХЦЧШЩЪЫЬЭЮЯабвгдежзийклмнопрстуфхцчшщъыьэюя"]
  | .windows1252 =>
      ["€\x81‚ƒ„…†‡ˆ‰Š‹Œ\x8DŽ\x8F\x90‘’“”•–—˜™š›œ\x9DžŸ\xA0¡¢£¤¥¦§¨©ª«¬\xAD®¯°±²³´µ¶·¸¹º»¼½¾¿ÀÁÂÃ",
       "ÄÅÆÇÈÉÊËÌÍÎÏÐÑÒÓÔÕÖ×ØÙÚÛÜÝÞßàáâãäåæçèéêëìíîïðñòóôõö÷øùúûüýþÿ"]
  | .windows1253 =>
      ["€\x81‚ƒ„…†‡\x88‰\x8A‹\x8C\x8D\x8E\x8F\x90‘’“”•–—\x98™\x9A›\x9C\x9D\x9E\x9F\xA0΅Ά£¤¥¦§¨©.«",
       "¬\xAD®―°±²³΄µ¶·ΈΉΊ»Ό½ΎΏΐΑΒΓΔΕΖΗΘΙΚΛΜΝΞΟΠΡ.ΣΤΥΦΧΨΩΪΫάέήίΰαβγδεζηθικλμνξοπρςστυφχψωϊϋόύώ."]
  | .windows1254 =>
      ["€\x81‚ƒ„…†‡ˆ‰Š‹Œ\x8D\x8E\x8F\x90‘’“”•–—˜™š›œ\x9D\x9EŸ\xA0¡¢£¤¥¦§¨©ª«¬\xAD®¯°±²³´µ¶·¸¹º»¼½",
       "¾¿ÀÁÂÃÄÅÆÇÈÉÊËÌÍÎÏĞÑÒÓÔÕÖ×ØÙÚÛÜİŞßàáâãäåæçèéêëìíîïğñòóôõö÷øùúûüışÿ"]
  | .windows1255 =>
      ["€\x81‚ƒ„…†‡ˆ‰\x8A‹\x8C\x8D\x8E\x8F\x90‘’“”•–—˜™\x9A›\x9C\x9D\x9E\x9F\xA0¡¢£₪¥¦§¨©×«¬\xAD®",
       "¯°±²³´µ¶·¸¹÷»¼½¾¿\u05B0\u05B1\u05B2\u05B3\u05B4\u05B5\u05B6\u05B7\u05B8\u05B9\u05BA\u05BB",
       "\u05BC\u05BD־\u05BF׀\u05C1\u05C2׃װױײ׳״.......אבגדהוזחטיךכלםמןנסעףפץצקרשת..\u200E\u200F."]
  | .windows1256 =>
      ["€پ‚ƒ„…†‡ˆ‰ٹ‹Œچژڈگ‘’“”•–—ک™ڑ›œ\u200C\u200Dں\xA0،¢£¤¥¦§¨©ھ«¬\xAD®¯°±²³´µ¶·¸¹؛»¼½¾؟ہءآأؤإئاب",
       "ةتثجحخدذرزسشصض×طظعغـفقكàلâمنهوçèéêëىيîï\u064B\u064C\u064D\u064Eô\u064F\u0650÷\u0651ù",
       "\u0652ûü\u200E\u200Fے"]
  | .windows1257 =>
      ["€\x81‚\x83„…†‡\x88‰\x8A‹\x8C¨ˇ¸\x90‘’“”•–—\x98™\x9A›\x9C¯˛\x9F\xA0.¢£¤.¦§Ø©Ŗ«¬\xAD®Æ°±²³´",
       "µ¶·ø¹ŗ»¼½¾æĄĮĀĆÄÅĘĒČÉŹĖĢĶĪĻŠŃŅÓŌÕÖ×ŲŁŚŪÜŻŽßąįāćäåęēčéźėģķīļšńņóōõö÷ųłśūüżž˙"]
  | .windows1258 =>
      ["€\x81‚ƒ„…†‡ˆ‰\x8A‹Œ\x8D\x8E\x8F\x90‘’“”•–—˜™\x9A›œ\x9D\x9EŸ\xA0¡¢£¤¥¦§¨©ª«¬\xAD®¯°±²³´µ¶·",
       "¸¹º»¼½¾¿ÀÁÂĂÄÅÆÇÈÉÊË\u0300ÍÎÏĐÑ\u0309ÓÔƠÖ×ØÙÚÛÜƯ\u0303ßàáâăäåæçèéêë\u0301íîïđñ\u0323óôơö÷",
       "øùúûüư₫ÿ"]

/-- The characters of the bytes from 128. -/
def upper (p : Page) : List Char := p.rows.flatMap String.toList

/-- The character of a byte. -/
def char (p : Page) (b : UInt8) : Char :=
  if b < 128 then Char.ofNat b.toNat
  else ((p.upper[b.toNat - 128]?).filter (· ≠ '.')).getD '\uFFFD'

end Page

end GraphServe.Text.Charset
