/-!
# Vendor extensions of the two-byte sets

The cells that the vendor codecs add to, or put in place of, the national sets, by code: the lead
byte high and the trail byte low.

* Code page 932: 851 cells, NEC and IBM extensions among them, read before JIS X 0208.
* Code page 950: 53 cells, read before Big5.
* GBK: the 206 cells of its extension that hold no unified ideograph (the ideographs follow a rule,
  see `Codec.Chinese`).
* GB 18030: 2149 cells added to GBK, written as 118 segments of consecutive codes holding consecutive
  characters, most of them in the private use area.
-/

namespace LocationDrift

namespace Charset

/-- The cells of code page 932 read before JIS X 0208, as runs of consecutive codes. -/
def cp932Runs : List (Nat × String) := [
  (0x8160, "～∥"),
  (0x817C, "－"),
  (0x8191, "￠￡"),
  (0x81CA, "￢"),
  (0x8740, "①②③④⑤⑥⑦⑧⑨⑩⑪⑫⑬⑭⑮⑯⑰⑱⑲⑳ⅠⅡⅢⅣⅤⅥⅦⅧⅨⅩ"),
  (0x875F, "㍉㌔㌢㍍㌘㌧㌃㌶㍑㍗㌍㌦㌣㌫㍊㌻㎜㎝㎞㎎㎏㏄㎡"),
  (0x877E, "㍻"),
  (0x8780, "〝〟№㏍℡㊤㊥㊦㊧㊨㈱㈲㈹㍾㍽㍼≒≡∫∮∑√⊥∠∟⊿∵∩∪"),
  (0xED40, "纊褜鍈銈蓜俉炻昱棈鋹曻彅丨仡仼伀伃伹佖侒侊侚侔俍偀倢俿倞偆偰偂傔僴僘兊兤冝冾凬刕"),
  (0xED68, "劜劦勀勛匀匇匤卲厓厲叝﨎咜咊咩哿喆坙坥垬埈埇﨏"),
  (0xED80, "塚增墲夋奓奛奝奣妤妺孖寀甯寘寬尞岦岺峵崧嵓﨑嵂嵭嶸嶹巐弡弴彧德忞恝悅悊惞惕愠惲愑"),
  (0xEDA8, "愷愰憘戓抦揵摠撝擎敎昀昕昻昉昮昞昤晥晗晙晴晳暙暠暲暿曺朎朗杦枻桒柀栁桄棏﨓楨﨔榘"),
  (0xEDD0, "槢樰橫橆橳橾櫢櫤毖氿汜沆汯泚洄涇浯涖涬淏淸淲淼渹湜渧渼溿澈澵濵瀅瀇瀨炅炫焏焄煜煆"),
  (0xEDF8, "煇凞燁燾犱"),
  (0xEE40, "犾猤猪獷玽珉珖珣珒琇珵琦琪琩琮瑢璉璟甁畯皂皜皞皛皦益睆劯砡硎硤硺礰礼神祥禔福禛竑"),
  (0xEE68, "竧靖竫箞精絈絜綷綠緖繒罇羡羽茁荢荿菇菶葈蒴蕓蕙"),
  (0xEE80, "蕫﨟薰蘒﨡蠇裵訒訷詹誧誾諟諸諶譓譿賰賴贒赶﨣軏﨤逸遧郞都鄕鄧釚釗釞釭釮釤釥鈆鈐鈊"),
  (0xEEA8, "鈺鉀鈼鉎鉙鉑鈹鉧銧鉷鉸鋧鋗鋙鋐﨧鋕鋠鋓錥錡鋻﨨錞鋿錝錂鍰鍗鎤鏆鏞鏸鐱鑅鑈閒隆﨩隝"),
  (0xEED0, "隯霳霻靃靍靏靑靕顗顥飯飼餧館馞驎髙髜魵魲鮏鮱鮻鰀鵰鵫鶴鸙黑"),
  (0xEEEF, "ⅰⅱⅲⅳⅴⅵⅶⅷⅸⅹ￢￤＇＂"),
  (0xFA40, "ⅰⅱⅲⅳⅴⅵⅶⅷⅸⅹⅠⅡⅢⅣⅤⅥⅦⅧⅨⅩ￢￤＇＂㈱№℡∵纊褜鍈銈蓜俉炻昱棈鋹曻彅"),
  (0xFA68, "丨仡仼伀伃伹佖侒侊侚侔俍偀倢俿倞偆偰偂傔僴僘兊"),
  (0xFA80, "兤冝冾凬刕劜劦勀勛匀匇匤卲厓厲叝﨎咜咊咩哿喆坙坥垬埈埇﨏塚增墲夋奓奛奝奣妤妺孖寀"),
  (0xFAA8, "甯寘寬尞岦岺峵崧嵓﨑嵂嵭嶸嶹巐弡弴彧德忞恝悅悊惞惕愠惲愑愷愰憘戓抦揵摠撝擎敎昀昕"),
  (0xFAD0, "昻昉昮昞昤晥晗晙晴晳暙暠暲暿曺朎朗杦枻桒柀栁桄棏﨓楨﨔榘槢樰橫橆橳橾櫢櫤毖氿汜沆"),
  (0xFAF8, "汯泚洄涇浯"),
  (0xFB40, "涖涬淏淸淲淼渹湜渧渼溿澈澵濵瀅瀇瀨炅炫焏焄煜煆煇凞燁燾犱犾猤猪獷玽珉珖珣珒琇珵琦"),
  (0xFB68, "琪琩琮瑢璉璟甁畯皂皜皞皛皦益睆劯砡硎硤硺礰礼神"),
  (0xFB80, "祥禔福禛竑竧靖竫箞精絈絜綷綠緖繒罇羡羽茁荢荿菇菶葈蒴蕓蕙蕫﨟薰蘒﨡蠇裵訒訷詹誧誾"),
  (0xFBA8, "諟諸諶譓譿賰賴贒赶﨣軏﨤逸遧郞都鄕鄧釚釗釞釭釮釤釥鈆鈐鈊鈺鉀鈼鉎鉙鉑鈹鉧銧鉷鉸鋧"),
  (0xFBD0, "鋗鋙鋐﨧鋕鋠鋓錥錡鋻﨨錞鋿錝錂鍰鍗鎤鏆鏞鏸鐱鑅鑈閒隆﨩隝隯霳霻靃靍靏靑靕顗顥飯飼"),
  (0xFBF8, "餧館馞驎髙"),
  (0xFC40, "髜魵魲鮏鮱鮻鰀鵰鵫鶴鸙黑")]

/-- The cells of code page 950 read before Big5, as runs of consecutive codes. -/
def cp950Runs : List (Nat × String) := [
  (0xA145, "‧"),
  (0xA14E, "﹑"),
  (0xA1C2, "¯"),
  (0xA1E3, "～"),
  (0xA1F2, "⊕⊙"),
  (0xA241, "∕﹨"),
  (0xA244, "￥"),
  (0xA246, "￠￡"),
  (0xA3E1, "€"),
  (0xF9D6, "碁銹裏墻恒粧嫺╔╦╗╠╬╣╚╩╝╒╤╕╞╪╡╘╧╛╓╥╖╟╫╢╙╨╜║═╭╮╰╯"),
  (0xF9FE, "▓")]

/-- The cells of the GBK extension that hold no unified ideograph, as runs of consecutive codes. -/
def gbkSymbolRuns : List (Nat × String) := [
  (0xA2A1, "ⅰⅱⅲⅳⅴⅵⅶⅷⅸⅹ"),
  (0xA6E0, "︵︶︹︺︿﹀︽︾﹁﹂﹃﹄"),
  (0xA6EE, "︻︼︷︸︱"),
  (0xA6F4, "︳︴"),
  (0xA840, "ˊˋ˙–"),
  (0xA845, "‥‵℅℉↖↗↘↙∕∟∣≒≦≧⊿═║╒╓╔╕╖╗╘╙╚╛╜╝╞╟╠╡╢╣╤╥╦╧╨"),
  (0xA86D, "╩╪╫╬╭╮╯╰╱╲╳▁▂▃▄▅▆▇"),
  (0xA880, "█▉▊▋▌▍▎▏▓▔▕▼▽◢◣◤◥☉⊕〒〝〞"),
  (0xA8BB, "ɑ"),
  (0xA8BD, "ńň"),
  (0xA8C0, "ɡ"),
  (0xA940, "〡〢〣〤〥〦〧〨〩㊣㎎㎏㎜㎝㎞㎡㏄㏎㏑㏒㏕︰￢￤"),
  (0xA959, "℡㈱"),
  (0xA95C, "‐"),
  (0xA960, "ー゛゜ヽヾ〆ゝゞ﹉﹊﹋﹌﹍﹎﹏﹐﹑﹒﹔﹕﹖﹗﹙﹚﹛﹜﹝﹞﹟﹠﹡"),
  (0xA980, "﹢﹣﹤﹥﹦﹨﹩﹪﹫"),
  (0xA996, "〇"),
  (0xFD9C, "郎凉秊裏隣"),
  (0xFE40, "兀嗀﨎﨏﨑﨓﨔礼﨟蘒﨡﨣﨤﨧﨨﨩")]

/-- The cells GB 18030 adds to GBK: the first code, the first character and the length of each
segment. -/
def gb18030Segments : List (Nat × Nat × Nat) := [
  (0xA140, 0xE4C6, 63),
  (0xA180, 0xE505, 33),
  (0xA240, 0xE526, 63),
  (0xA280, 0xE565, 33),
  (0xA2AB, 0xE766, 6),
  (0xA2E3, 0x20AC, 1),
  (0xA2E4, 0xE76D, 1),
  (0xA2EF, 0xE76E, 2),
  (0xA2FD, 0xE770, 2),
  (0xA340, 0xE586, 63),
  (0xA380, 0xE5C5, 33),
  (0xA440, 0xE5E6, 63),
  (0xA480, 0xE625, 33),
  (0xA4F4, 0xE772, 11),
  (0xA540, 0xE646, 63),
  (0xA580, 0xE685, 33),
  (0xA5F7, 0xE77D, 8),
  (0xA640, 0xE6A6, 63),
  (0xA680, 0xE6E5, 33),
  (0xA6B9, 0xE785, 8),
  (0xA6D9, 0xE78D, 7),
  (0xA6EC, 0xE794, 2),
  (0xA6F3, 0xE796, 1),
  (0xA6F6, 0xE797, 9),
  (0xA740, 0xE706, 63),
  (0xA780, 0xE745, 33),
  (0xA7C2, 0xE7A0, 15),
  (0xA7F2, 0xE7AF, 13),
  (0xA896, 0xE7BC, 11),
  (0xA8BC, 0xE7C7, 1),
  (0xA8BF, 0x01F9, 1),
  (0xA8C1, 0xE7C9, 4),
  (0xA8EA, 0xE7CD, 21),
  (0xA958, 0xE7E2, 1),
  (0xA95B, 0xE7E3, 1),
  (0xA95D, 0xE7E4, 3),
  (0xA989, 0x303E, 1),
  (0xA98A, 0x2FF0, 12),
  (0xA997, 0xE7F4, 13),
  (0xA9F0, 0xE801, 15),
  (0xAAA1, 0xE000, 94),
  (0xABA1, 0xE05E, 94),
  (0xACA1, 0xE0BC, 94),
  (0xADA1, 0xE11A, 94),
  (0xAEA1, 0xE178, 94),
  (0xAFA1, 0xE1D6, 94),
  (0xD7FA, 0xE810, 5),
  (0xF8A1, 0xE234, 94),
  (0xF9A1, 0xE292, 94),
  (0xFAA1, 0xE2F0, 94),
  (0xFBA1, 0xE34E, 94),
  (0xFCA1, 0xE3AC, 94),
  (0xFDA1, 0xE40A, 94),
  (0xFE50, 0x2E81, 1),
  (0xFE51, 0xE816, 3),
  (0xFE54, 0x2E84, 1),
  (0xFE55, 0x3473, 1),
  (0xFE56, 0x3447, 1),
  (0xFE57, 0x2E88, 1),
  (0xFE58, 0x2E8B, 1),
  (0xFE59, 0xE81E, 1),
  (0xFE5A, 0x359E, 1),
  (0xFE5B, 0x361A, 1),
  (0xFE5C, 0x360E, 1),
  (0xFE5D, 0x2E8C, 1),
  (0xFE5E, 0x2E97, 1),
  (0xFE5F, 0x396E, 1),
  (0xFE60, 0x3918, 1),
  (0xFE61, 0xE826, 1),
  (0xFE62, 0x39CF, 1),
  (0xFE63, 0x39DF, 1),
  (0xFE64, 0x3A73, 1),
  (0xFE65, 0x39D0, 1),
  (0xFE66, 0xE82B, 2),
  (0xFE68, 0x3B4E, 1),
  (0xFE69, 0x3C6E, 1),
  (0xFE6A, 0x3CE0, 1),
  (0xFE6B, 0x2EA7, 1),
  (0xFE6C, 0xE831, 2),
  (0xFE6E, 0x2EAA, 1),
  (0xFE6F, 0x4056, 1),
  (0xFE70, 0x415F, 1),
  (0xFE71, 0x2EAE, 1),
  (0xFE72, 0x4337, 1),
  (0xFE73, 0x2EB3, 1),
  (0xFE74, 0x2EB6, 2),
  (0xFE76, 0xE83B, 1),
  (0xFE77, 0x43B1, 1),
  (0xFE78, 0x43AC, 1),
  (0xFE79, 0x2EBB, 1),
  (0xFE7A, 0x43DD, 1),
  (0xFE7B, 0x44D6, 1),
  (0xFE7C, 0x4661, 1),
  (0xFE7D, 0x464C, 1),
  (0xFE7E, 0xE843, 1),
  (0xFE80, 0x4723, 1),
  (0xFE81, 0x4729, 1),
  (0xFE82, 0x477C, 1),
  (0xFE83, 0x478D, 1),
  (0xFE84, 0x2ECA, 1),
  (0xFE85, 0x4947, 1),
  (0xFE86, 0x497A, 1),
  (0xFE87, 0x497D, 1),
  (0xFE88, 0x4982, 2),
  (0xFE8A, 0x4985, 2),
  (0xFE8C, 0x499F, 1),
  (0xFE8D, 0x499B, 1),
  (0xFE8E, 0x49B7, 1),
  (0xFE8F, 0x49B6, 1),
  (0xFE90, 0xE854, 2),
  (0xFE92, 0x4CA3, 1),
  (0xFE93, 0x4C9F, 3),
  (0xFE96, 0x4C77, 1),
  (0xFE97, 0x4CA2, 1),
  (0xFE98, 0x4D13, 7),
  (0xFE9F, 0x4DAE, 1),
  (0xFEA0, 0xE864, 1),
  (0xFEA1, 0xE468, 94)]

end Charset

end LocationDrift
