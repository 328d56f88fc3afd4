import Banter.Charset.Chart

/-! What GBK changes in GB 2312, and what it adds beside the ideographs that follow in order. -/
namespace Banter.Charset

def gbkAdded : Chart := .ofText "
a1a4 ·
a1aa —
a2a1 ⅰⅱⅲⅳⅴⅵⅶⅷⅸⅹ
a6e0 ︵︶︹︺︿﹀︽︾﹁﹂﹃﹄
a6ee ︻︼︷︸︱
a6f4 ︳︴
a840 ˊˋ˙–―‥‵℅℉↖↗↘↙∕∟∣≒≦≧⊿═║╒╓╔╕╖╗╘╙╚╛╜╝╞╟╠╡╢╣╤╥╦╧╨╩╪╫╬╭╮╯╰╱╲╳▁▂▃▄▅▆▇
a880 █▉▊▋▌▍▎▏▓▔▕▼▽◢◣◤◥☉⊕〒〝〞
a8bb ɑ
a8bd ńň
a8c0 ɡ
a940 〡〢〣〤〥〦〧〨〩㊣㎎㎏㎜㎝㎞㎡㏄㏎㏑㏒㏕︰￢￤
a959 ℡㈱
a95c ‐
a960 ー゛゜ヽヾ〆ゝゞ﹉﹊﹋﹌﹍﹎﹏﹐﹑﹒﹔﹕﹖﹗﹙﹚﹛﹜﹝﹞﹟﹠﹡
a980 ﹢﹣﹤﹥﹦﹨﹩﹪﹫
a996 〇
fd9c 郎凉秊裏隣
fe40 兀嗀﨎﨏﨑﨓﨔礼﨟蘒﨡﨣﨤﨧﨨﨩"

end Banter.Charset
