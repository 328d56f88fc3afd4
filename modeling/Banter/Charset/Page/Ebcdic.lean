/-! Code pages that put the letters where punched cards had them. -/
namespace Banter.Charset.Page

def cp037 : String :=
  "\u009c\t\u0086\x7f\u0097\u008d\u008e\x0b\x0c\r\x0e\x0f\x10\x11\x12\x13\u009d\u0085" ++
    "\x08\u0087\x18\x19\u0092\u008f\x1c\x1d\x1e\x1f\u0080\u0081\u0082\u0083\u0084\n\x17" ++
    "\x1b\u0088\u0089\u008a\u008b\u008c\x05\x06\x07\u0090\u0091\x16\u0093\u0094\u0095\u0096" ++
    "\x04\u0098\u0099\u009a\u009b\x14\x15\u009e\x1a \u00a0âä" ++
    "àáãåçñ¢.<(+|&éêëèíîïìß!$*);¬-/ÂÄÀÁÃÅÇÑ¦,%_>?øÉÊËÈÍÎÏÌ`:#@'=\"Øabc" ++
    "defghi«»ðýþ±°jklmnopqrªºæ¸Æ¤µ~stuvwxyz¡¿ÐÝÞ®^£¥·©§¶¼½¾[]¯¨´×\x7bABC" ++
    "DEFGHI\u00adôöòóõ\x7dJKLMNOPQR¹ûüùúÿ\\÷STUVWXYZ²ÔÖÒÓÕ0123456789³ÛÜÙÚ\u009f"

def cp273 : String :=
  "\u009c\t\u0086\x7f\u0097\u008d\u008e\x0b\x0c\r\x0e\x0f\x10\x11\x12\x13\u009d\u0085" ++
    "\x08\u0087\x18\x19\u0092\u008f\x1c\x1d\x1e\x1f\u0080\u0081\u0082\u0083\u0084\n\x17" ++
    "\x1b\u0088\u0089\u008a\u008b\u008c\x05\x06\x07\u0090\u0091\x16\u0093\u0094\u0095\u0096" ++
    "\x04\u0098\u0099\u009a\u009b\x14\x15\u009e\x1a \u00a0â\x7b" ++
    "àáãåçñÄ.<(+!&éêëèíîïì~Ü$*);^-/Â[ÀÁÃÅÇÑö,%_>?øÉÊËÈÍÎÏÌ`:#§'=\"Øabc" ++
    "defghi«»ðýþ±°jklmnopqrªºæ¸Æ¤µßstuvwxyz¡¿ÐÝÞ®¢£¥·©@¶¼½¾¬|‾¨´×äABC" ++
    "DEFGHI\u00adô¦òóõüJKLMNOPQR¹û\x7dùúÿÖ÷STUVWXYZ²Ô\\ÒÓÕ0123456789³Û]ÙÚ\u009f"

def cp424 : String :=
  "\u009c\t\u0086\x7f\u0097\u008d\u008e\x0b\x0c\r\x0e\x0f\x10\x11\x12\x13\u009d\u0085" ++
    "\x08\u0087\x18\x19\u0092\u008f\x1c\x1d\x1e\x1f\u0080\u0081\u0082\u0083\u0084\n\x17" ++
    "\x1b\u0088\u0089\u008a\u008b\u008c\x05\x06\x07\u0090\u0091\x16\u0093\u0094\u0095\u0096" ++
    "\x04\u0098\u0099\u009a\u009b\x14\x15\u009e\x1a אבג" ++
    "דהוזחט¢.<(+|&יךכלםמןנס!$*);¬-/עףפץצקרש¦,%_>?�ת��\u00a0���‗`:#@'=\"�abc" ++
    "defghi«»���±°jklmnopqr���¸�¤µ~stuvwxyz�����®^£¥·©§¶¼½¾[]¯¨´×\x7bABC" ++
    "DEFGHI\u00ad�����\x7dJKLMNOPQR¹�����\\÷STUVWXYZ²�����0123456789³����\u009f"

def cp500 : String :=
  "\u009c\t\u0086\x7f\u0097\u008d\u008e\x0b\x0c\r\x0e\x0f\x10\x11\x12\x13\u009d\u0085" ++
    "\x08\u0087\x18\x19\u0092\u008f\x1c\x1d\x1e\x1f\u0080\u0081\u0082\u0083\u0084\n\x17" ++
    "\x1b\u0088\u0089\u008a\u008b\u008c\x05\x06\x07\u0090\u0091\x16\u0093\u0094\u0095\u0096" ++
    "\x04\u0098\u0099\u009a\u009b\x14\x15\u009e\x1a \u00a0âä" ++
    "àáãåçñ[.<(+!&éêëèíîïìß]$*);^-/ÂÄÀÁÃÅÇÑ¦,%_>?øÉÊËÈÍÎÏÌ`:#@'=\"Øabc" ++
    "defghi«»ðýþ±°jklmnopqrªºæ¸Æ¤µ~stuvwxyz¡¿ÐÝÞ®¢£¥·©§¶¼½¾¬|¯¨´×\x7bABC" ++
    "DEFGHI\u00adôöòóõ\x7dJKLMNOPQR¹ûüùúÿ\\÷STUVWXYZ²ÔÖÒÓÕ0123456789³ÛÜÙÚ\u009f"

def cp875 : String :=
  "\u009c\t\u0086\x7f\u0097\u008d\u008e\x0b\x0c\r\x0e\x0f\x10\x11\x12\x13\u009d\u0085" ++
    "\x08\u0087\x18\x19\u0092\u008f\x1c\x1d\x1e\x1f\u0080\u0081\u0082\u0083\u0084\n\x17" ++
    "\x1b\u0088\u0089\u008a\u008b\u008c\x05\x06\x07\u0090\u0091\x16\u0093\u0094\u0095\u0096" ++
    "\x04\u0098\u0099\u009a\u009b\x14\x15\u009e\x1a ΑΒΓ" ++
    "ΔΕΖΗΘΙ[.<(+!&ΚΛΜΝΞΟΠΡΣ]$*);^-/ΤΥΦΧΨΩΪΫ|,%_>?¨ΆΈΉ\u00a0ΊΌΎΏ`:#@'=\"΅abc" ++
    "defghiαβγδεζ°jklmnopqrηθικλμ´~stuvwxyzνξοπρσ£άέήϊίόύϋώςτυφχψ\x7bABC" ++
    "DEFGHI\u00adωΐΰ‘―\x7dJKLMNOPQR±½\x1a·’¦\\\x1aSTUVWXYZ²§\x1a\x1a«¬0123456789³©\x1a" ++
    "\x1a»\u009f"

def cp1026 : String :=
  "\u009c\t\u0086\x7f\u0097\u008d\u008e\x0b\x0c\r\x0e\x0f\x10\x11\x12\x13\u009d\u0085" ++
    "\x08\u0087\x18\x19\u0092\u008f\x1c\x1d\x1e\x1f\u0080\u0081\u0082\u0083\u0084\n\x17" ++
    "\x1b\u0088\u0089\u008a\u008b\u008c\x05\x06\x07\u0090\u0091\x16\u0093\u0094\u0095\u0096" ++
    "\x04\u0098\u0099\u009a\u009b\x14\x15\u009e\x1a \u00a0âä" ++
    "àáãå\x7bñÇ.<(+!&éêëèíîïìßĞİ*);^-/ÂÄÀÁÃÅ[Ñş,%_>?øÉÊËÈÍÎÏÌı:ÖŞ'=ÜØabc" ++
    "defghi«»\x7d`¦±°jklmnopqrªºæ¸Æ¤µöstuvwxyz¡¿]$@®¢£¥·©§¶¼½¾¬|¯¨´×çABC" ++
    "DEFGHI\u00adô~òóõğJKLMNOPQR¹û\\ùúÿü÷STUVWXYZ²Ô#ÒÓÕ0123456789³Û\"ÙÚ\u009f"

def cp1140 : String :=
  "\u009c\t\u0086\x7f\u0097\u008d\u008e\x0b\x0c\r\x0e\x0f\x10\x11\x12\x13\u009d\u0085" ++
    "\x08\u0087\x18\x19\u0092\u008f\x1c\x1d\x1e\x1f\u0080\u0081\u0082\u0083\u0084\n\x17" ++
    "\x1b\u0088\u0089\u008a\u008b\u008c\x05\x06\x07\u0090\u0091\x16\u0093\u0094\u0095\u0096" ++
    "\x04\u0098\u0099\u009a\u009b\x14\x15\u009e\x1a \u00a0âä" ++
    "àáãåçñ¢.<(+|&éêëèíîïìß!$*);¬-/ÂÄÀÁÃÅÇÑ¦,%_>?øÉÊËÈÍÎÏÌ`:#@'=\"Øabc" ++
    "defghi«»ðýþ±°jklmnopqrªºæ¸Æ€µ~stuvwxyz¡¿ÐÝÞ®^£¥·©§¶¼½¾[]¯¨´×\x7bABC" ++
    "DEFGHI\u00adôöòóõ\x7dJKLMNOPQR¹ûüùúÿ\\÷STUVWXYZ²ÔÖÒÓÕ0123456789³ÛÜÙÚ\u009f"

end Banter.Charset.Page
