import DfaTable.Encoding.Plane

/-!
# DfaTable.Encoding.Plane.Additions

What vendors and a newer standard add to the basic planes.
-/

namespace DfaTable.Encoding.Plane

/-- Signs and ideographs of NEC and IBM. -/
def vendorJapanese : Plane :=
  [(0x8160, "～∥"), (0x817C, "－"), (0x8191, "￠￡"), (0x81CA, "￢"),
   (0x8740, "①②③④⑤⑥⑦⑧⑨⑩⑪⑫⑬⑭⑮⑯⑰⑱⑲⑳ⅠⅡⅢⅣⅤⅥⅦⅧⅨⅩ"), (0x875F, "㍉㌔㌢㍍㌘㌧㌃㌶㍑㍗㌍㌦㌣㌫㍊㌻㎜㎝㎞㎎㎏㏄㎡"), (0x877E, "㍻"),
   (0x8780, "〝〟№㏍℡㊤㊥㊦㊧㊨㈱㈲㈹㍾㍽㍼"), (0x8793, "∮∑"), (0x8798, "∟⊿"),
   (0xED40, "纊褜鍈銈蓜俉炻昱棈鋹曻彅丨仡仼伀伃伹佖侒侊侚侔俍偀倢俿倞偆偰偂傔僴僘兊兤冝冾凬刕劜劦勀勛匀匇匤卲厓厲叝﨎咜咊咩哿喆坙坥垬埈埇"), (0xED7E, "﨏"),
   (0xED80, "塚增墲夋奓奛奝奣妤妺孖寀甯寘寬尞岦岺峵崧嵓﨑嵂嵭嶸嶹巐弡弴彧德忞恝悅悊惞惕愠惲愑愷愰憘戓抦揵摠撝擎敎昀昕昻昉昮昞昤晥晗晙晴晳"),
   (0xEDBE, "暙暠暲暿曺朎朗杦枻桒柀栁桄棏﨓楨﨔榘槢樰橫橆橳橾櫢櫤毖氿汜沆汯泚洄涇浯涖涬淏淸淲淼渹湜渧渼溿澈澵濵瀅瀇瀨炅炫焏焄煜煆煇凞燁燾"), (0xEDFC, "犱"),
   (0xEE40, "犾猤猪獷玽珉珖珣珒琇珵琦琪琩琮瑢璉璟甁畯皂皜皞皛皦益睆劯砡硎硤硺礰礼神祥禔福禛竑竧靖竫箞精絈絜綷綠緖繒罇羡羽茁荢荿菇菶葈蒴蕓"), (0xEE7E, "蕙"),
   (0xEE80, "蕫﨟薰蘒﨡蠇裵訒訷詹誧誾諟諸諶譓譿賰賴贒赶﨣軏﨤逸遧郞都鄕鄧釚釗釞釭釮釤釥鈆鈐鈊鈺鉀鈼鉎鉙鉑鈹鉧銧鉷鉸鋧鋗鋙鋐﨧鋕鋠鋓錥錡鋻"),
   (0xEEBE, "﨨錞鋿錝錂鍰鍗鎤鏆鏞鏸鐱鑅鑈閒隆﨩隝隯霳霻靃靍靏靑靕顗顥飯飼餧館馞驎髙髜魵魲鮏鮱鮻鰀鵰鵫鶴鸙黑"), (0xEEEF, "ⅰⅱⅲⅳⅴⅵⅶⅷⅸⅹ"),
   (0xEEFA, "￤＇＂")]

/-- Signs, frames and ideographs of ETEN, and those signs that have other places there. -/
def vendorTraditional : Plane :=
  [(0xA145, "‧"), (0xA14E, "﹑"), (0xA1C2, "¯"), (0xA1E3, "～"), (0xA1F2, "⊕⊙"), (0xA1FE, "／"),
   (0xA240, "＼∕﹨"), (0xA244, "￥"), (0xA246, "￠￡"), (0xA3E1, "€"), (0xF9D6, "碁銹裏墻恒粧嫺╔╦╗╠╬╣╚╩╝╒╤╕"),
   (0xF9EC, "╘╧╛╓╥╖╟╫╢╙╨╜║"), (0xF9FE, "▓")]

/-- Parts of ideographs, and ideographs that came late, of the newer standard of China. -/
def modernSimplified : Plane :=
  [(0xA2E3, "€"), (0xA8BF, "ǹ"), (0xA989, "〾⿰⿱⿲⿳⿴⿵⿶⿷⿸⿹⿺⿻"), (0xFE50, "⺁"), (0xFE54, "⺄㑳㑇⺈⺋"),
   (0xFE5A, "㖞㘚㘎⺌⺗㥮㤘"), (0xFE62, "㧏㧟㩳㧐"), (0xFE68, "㭎㱮㳠⺧"), (0xFE6E, "⺪䁖䅟⺮䌷⺳⺶⺷"),
   (0xFE77, "䎱䎬⺻䏝䓖䙡䙌"), (0xFE80, "䜣䜩䝼䞍⻊䥇䥺䥽䦂䦃䦅䦆䦟䦛䦷䦶"), (0xFE92, "䲣䲟䲠䲡䱷䲢䴓䴔䴕䴖䴗䴘䴙䶮")]

end DfaTable.Encoding.Plane
