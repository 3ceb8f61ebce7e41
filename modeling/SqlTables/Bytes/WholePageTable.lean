/-!
# Whole code pages

Encodings of one byte a character that differ from ASCII in their lower half: those of mainframes,
and one of Arabic.  Each table lists the characters of all bytes in order; U+FFFE stands for a byte
that has none.
-/

set_option autoImplicit false

namespace SqlTables.Bytes

/-- Code pages by name, in rows of sixteen. -/
def wholePages : List (String × List String) := [
  ("cp037", [
    "\x00\x01\x02\x03\u009c\x09\u0086\x7f\u0097\u008d\u008e\x0b\x0c\x0d\x0e\x0f",
    "\x10\x11\x12\x13\u009d\u0085\x08\u0087\x18\x19\u0092\u008f\x1c\x1d\x1e\x1f",
    "\u0080\u0081\u0082\u0083\u0084\x0a\x17\x1b\u0088\u0089\u008a\u008b\u008c\x05\x06\x07",
    "\u0090\u0091\x16\u0093\u0094\u0095\u0096\x04\u0098\u0099\u009a\u009b\x14\x15\u009e\x1a",
    " \u00a0âäàáãåçñ¢.<(+|", "&éêëèíîïìß!$*);¬", "-/ÂÄÀÁÃÅÇÑ¦,%_>?",
    "øÉÊËÈÍÎÏÌ\x60:#@\x27=\x22", "Øabcdefghi«»ðýþ±", "°jklmnopqrªºæ¸Æ¤", "µ~stuvwxyz¡¿ÐÝÞ®",
    "^£¥·©§¶¼½¾[]¯¨´×", "\x7bABCDEFGHI\u00adôöòóõ", "\x7dJKLMNOPQR¹ûüùúÿ",
    "\x5c÷STUVWXYZ²ÔÖÒÓÕ", "0123456789³ÛÜÙÚ\u009f"]),
  ("cp1026", [
    "\x00\x01\x02\x03\u009c\x09\u0086\x7f\u0097\u008d\u008e\x0b\x0c\x0d\x0e\x0f",
    "\x10\x11\x12\x13\u009d\u0085\x08\u0087\x18\x19\u0092\u008f\x1c\x1d\x1e\x1f",
    "\u0080\u0081\u0082\u0083\u0084\x0a\x17\x1b\u0088\u0089\u008a\u008b\u008c\x05\x06\x07",
    "\u0090\u0091\x16\u0093\u0094\u0095\u0096\x04\u0098\u0099\u009a\u009b\x14\x15\u009e\x1a",
    " \u00a0âäàáãå\x7bñÇ.<(+!", "&éêëèíîïìßĞİ*);^", "-/ÂÄÀÁÃÅ[Ñş,%_>?", "øÉÊËÈÍÎÏÌı:ÖŞ\x27=Ü",
    "Øabcdefghi«»\x7d\x60¦±", "°jklmnopqrªºæ¸Æ¤", "µöstuvwxyz¡¿]$@®", "¢£¥·©§¶¼½¾¬|¯¨´×",
    "çABCDEFGHI\u00adô~òóõ", "ğJKLMNOPQR¹û\x5cùúÿ", "ü÷STUVWXYZ²Ô#ÒÓÕ",
    "0123456789³Û\x22ÙÚ\u009f"]),
  ("cp1140", [
    "\x00\x01\x02\x03\u009c\x09\u0086\x7f\u0097\u008d\u008e\x0b\x0c\x0d\x0e\x0f",
    "\x10\x11\x12\x13\u009d\u0085\x08\u0087\x18\x19\u0092\u008f\x1c\x1d\x1e\x1f",
    "\u0080\u0081\u0082\u0083\u0084\x0a\x17\x1b\u0088\u0089\u008a\u008b\u008c\x05\x06\x07",
    "\u0090\u0091\x16\u0093\u0094\u0095\u0096\x04\u0098\u0099\u009a\u009b\x14\x15\u009e\x1a",
    " \u00a0âäàáãåçñ¢.<(+|", "&éêëèíîïìß!$*);¬", "-/ÂÄÀÁÃÅÇÑ¦,%_>?",
    "øÉÊËÈÍÎÏÌ\x60:#@\x27=\x22", "Øabcdefghi«»ðýþ±", "°jklmnopqrªºæ¸Æ€", "µ~stuvwxyz¡¿ÐÝÞ®",
    "^£¥·©§¶¼½¾[]¯¨´×", "\x7bABCDEFGHI\u00adôöòóõ", "\x7dJKLMNOPQR¹ûüùúÿ",
    "\x5c÷STUVWXYZ²ÔÖÒÓÕ", "0123456789³ÛÜÙÚ\u009f"]),
  ("cp273", [
    "\x00\x01\x02\x03\u009c\x09\u0086\x7f\u0097\u008d\u008e\x0b\x0c\x0d\x0e\x0f",
    "\x10\x11\x12\x13\u009d\u0085\x08\u0087\x18\x19\u0092\u008f\x1c\x1d\x1e\x1f",
    "\u0080\u0081\u0082\u0083\u0084\x0a\x17\x1b\u0088\u0089\u008a\u008b\u008c\x05\x06\x07",
    "\u0090\u0091\x16\u0093\u0094\u0095\u0096\x04\u0098\u0099\u009a\u009b\x14\x15\u009e\x1a",
    " \u00a0â\x7bàáãåçñÄ.<(+!", "&éêëèíîïì~Ü$*);^", "-/Â[ÀÁÃÅÇÑö,%_>?",
    "øÉÊËÈÍÎÏÌ\x60:#§\x27=\x22", "Øabcdefghi«»ðýþ±", "°jklmnopqrªºæ¸Æ¤", "µßstuvwxyz¡¿ÐÝÞ®",
    "¢£¥·©@¶¼½¾¬|‾¨´×", "äABCDEFGHI\u00adô¦òóõ", "üJKLMNOPQR¹û\x7dùúÿ", "Ö÷STUVWXYZ²Ô\x5cÒÓÕ",
    "0123456789³Û]ÙÚ\u009f"]),
  ("cp424", [
    "\x00\x01\x02\x03\u009c\x09\u0086\x7f\u0097\u008d\u008e\x0b\x0c\x0d\x0e\x0f",
    "\x10\x11\x12\x13\u009d\u0085\x08\u0087\x18\x19\u0092\u008f\x1c\x1d\x1e\x1f",
    "\u0080\u0081\u0082\u0083\u0084\x0a\x17\x1b\u0088\u0089\u008a\u008b\u008c\x05\x06\x07",
    "\u0090\u0091\x16\u0093\u0094\u0095\u0096\x04\u0098\u0099\u009a\u009b\x14\x15\u009e\x1a",
    " \u05d0\u05d1\u05d2\u05d3\u05d4\u05d5\u05d6\u05d7\u05d8¢.<(+|",
    "&\u05d9\u05da\u05db\u05dc\u05dd\u05de\u05df\u05e0\u05e1!$*);¬",
    "-/\u05e2\u05e3\u05e4\u05e5\u05e6\u05e7\u05e8\u05e9¦,%_>?",
    "\ufffe\u05ea\ufffe\ufffe\u00a0\ufffe\ufffe\ufffe‗\x60:#@\x27=\x22",
    "\ufffeabcdefghi«»\ufffe\ufffe\ufffe±", "°jklmnopqr\ufffe\ufffe\ufffe¸\ufffe¤",
    "µ~stuvwxyz\ufffe\ufffe\ufffe\ufffe\ufffe®", "^£¥·©§¶¼½¾[]¯¨´×",
    "\x7bABCDEFGHI\u00ad\ufffe\ufffe\ufffe\ufffe\ufffe",
    "\x7dJKLMNOPQR¹\ufffe\ufffe\ufffe\ufffe\ufffe",
    "\x5c÷STUVWXYZ²\ufffe\ufffe\ufffe\ufffe\ufffe",
    "0123456789³\ufffe\ufffe\ufffe\ufffe\u009f"]),
  ("cp500", [
    "\x00\x01\x02\x03\u009c\x09\u0086\x7f\u0097\u008d\u008e\x0b\x0c\x0d\x0e\x0f",
    "\x10\x11\x12\x13\u009d\u0085\x08\u0087\x18\x19\u0092\u008f\x1c\x1d\x1e\x1f",
    "\u0080\u0081\u0082\u0083\u0084\x0a\x17\x1b\u0088\u0089\u008a\u008b\u008c\x05\x06\x07",
    "\u0090\u0091\x16\u0093\u0094\u0095\u0096\x04\u0098\u0099\u009a\u009b\x14\x15\u009e\x1a",
    " \u00a0âäàáãåçñ[.<(+!", "&éêëèíîïìß]$*);^", "-/ÂÄÀÁÃÅÇÑ¦,%_>?",
    "øÉÊËÈÍÎÏÌ\x60:#@\x27=\x22", "Øabcdefghi«»ðýþ±", "°jklmnopqrªºæ¸Æ¤", "µ~stuvwxyz¡¿ÐÝÞ®",
    "¢£¥·©§¶¼½¾¬|¯¨´×", "\x7bABCDEFGHI\u00adôöòóõ", "\x7dJKLMNOPQR¹ûüùúÿ",
    "\x5c÷STUVWXYZ²ÔÖÒÓÕ", "0123456789³ÛÜÙÚ\u009f"]),
  ("cp864", [
    "\x00\x01\x02\x03\x04\x05\x06\x07\x08\x09\x0a\x0b\x0c\x0d\x0e\x0f",
    "\x10\x11\x12\x13\x14\x15\x16\x17\x18\x19\x1a\x1b\x1c\x1d\x1e\x1f",
    " !\x22#$\u066a&\x27()*+,-./", "0123456789:;<=>?", "@ABCDEFGHIJKLMNO",
    "PQRSTUVWXYZ[\x5c]^_", "\x60abcdefghijklmno", "pqrstuvwxyz\x7b|\x7d~\x7f",
    "°·∙√▒─│┼┤┬├┴┐┌└┘", "β∞φ±½¼≈«»\ufef7\ufef8\ufffe\ufffe\ufefb\ufefc\ufffe",
    "\u00a0\u00ad\ufe82£¤\ufe84\ufffe\ufffe\ufe8e\ufe8f\ufe95\ufe99\u060c\ufe9d\ufea1\ufea5",
    "\u0660\u0661\u0662\u0663\u0664\u0665\u0666\u0667\u0668\u0669\ufed1\u061b\ufeb1\ufeb5\ufeb9\u061f",
    "¢\ufe80\ufe81\ufe83\ufe85\ufeca\ufe8b\ufe8d\ufe91\ufe93\ufe97\ufe9b\ufe9f\ufea3\ufea7\ufea9",
    "\ufeab\ufead\ufeaf\ufeb3\ufeb7\ufebb\ufebf\ufec1\ufec5\ufecb\ufecf¦¬÷×\ufec9",
    "\u0640\ufed3\ufed7\ufedb\ufedf\ufee3\ufee7\ufeeb\ufeed\ufeef\ufef3\ufebd\ufecc\ufece\ufecd\ufee1",
    "\ufe7d\u0651\ufee5\ufee9\ufeec\ufef0\ufef2\ufed0\ufed5\ufef5\ufef6\ufedd\ufed9\ufef1■\ufffe"]),
  ("cp875", [
    "\x00\x01\x02\x03\u009c\x09\u0086\x7f\u0097\u008d\u008e\x0b\x0c\x0d\x0e\x0f",
    "\x10\x11\x12\x13\u009d\u0085\x08\u0087\x18\x19\u0092\u008f\x1c\x1d\x1e\x1f",
    "\u0080\u0081\u0082\u0083\u0084\x0a\x17\x1b\u0088\u0089\u008a\u008b\u008c\x05\x06\x07",
    "\u0090\u0091\x16\u0093\u0094\u0095\u0096\x04\u0098\u0099\u009a\u009b\x14\x15\u009e\x1a",
    " ΑΒΓΔΕΖΗΘΙ[.<(+!", "&ΚΛΜΝΞΟΠΡΣ]$*);^", "-/ΤΥΦΧΨΩΪΫ|,%_>?",
    "¨ΆΈΉ\u00a0ΊΌΎΏ\x60:#@\x27=\x22", "΅abcdefghiαβγδεζ", "°jklmnopqrηθικλμ",
    "´~stuvwxyzνξοπρσ", "£άέήϊίόύϋώςτυφχψ", "\x7bABCDEFGHI\u00adωΐΰ‘―",
    "\x7dJKLMNOPQR±½\x1a·’¦", "\x5c\x1aSTUVWXYZ²§\x1a\x1a«¬", "0123456789³©\x1a\x1a»\u009f"])]

end SqlTables.Bytes
