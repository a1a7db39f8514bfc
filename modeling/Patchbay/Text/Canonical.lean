import Patchbay.Text.Utf8

/-! The canonical form of a text: a character and the marks on it are one character where there is
such a one, and the marks that remain are in a fixed order. -/

namespace Patchbay.Text

/-- The characters that are made of another character and a mark: for each mark, the characters that
it goes on, and what they are with it. -/
def markedTable : List (Nat × String × String) :=
  [(0x300, "AEIOUaeiouÜüNnЕИеиĒēŌōWwÂâĂăÊêÔôƠơƯưYyἀἁἈἉἐἑἘἙἠἡἨἩἰἱἸἹὀὁὈὉὐὑὙὠὡὨὩαεηιουωΑΕΗ᾿ϊΙ῾ϋΥ¨ΟΩ",
      "ÀÈÌÒÙàèìòùǛǜǸǹЀЍѐѝḔḕṐṑẀẁẦầẰằỀềỒồỜờỪừỲỳἂἃἊἋἒἓἚἛἢἣἪἫἲἳἺἻὂὃὊὋὒὓὛὢὣὪὫὰὲὴὶὸὺὼᾺῈῊ῍ῒῚ῝ῢῪ῭ῸῺ"),
   (0x301, "AEIOUYaeiouyCcLlNnRrSsZzÜüGgÅåÆæØø¨ΑΕΗΙΟΥΩϊαεηιϋουωϒГКгкÇçĒēÏïKkMmÕõŌōPpŨũWwÂâĂăÊêÔô" ++
      "ƠơƯưἀἁἈἉἐἑἘἙἠἡἨἩἰἱἸἹὀὁὈὉὐὑὙὠὡὨὩ᾿῾",
      "ÁÉÍÓÚÝáéíóúýĆćĹĺŃńŔŕŚśŹźǗǘǴǵǺǻǼǽǾǿ΅ΆΈΉΊΌΎΏΐάέήίΰόύώϓЃЌѓќḈḉḖḗḮḯḰḱḾḿṌṍṒṓṔṕṸṹẂẃẤấẮắẾếỐốỚớỨứἄ" ++
      "ἅἌἍἔἕἜἝἤἥἬἭἴἵἼἽὄὅὌὍὔὕὝὤὥὬὭ῎῞"),
   (0x302, "AEIOUaeiouCcGgHhJjSsWwYyZzẠạẸẹỌọ",
      "ÂÊÎÔÛâêîôûĈĉĜĝĤĥĴĵŜŝŴŵŶŷẐẑẬậỆệỘộ"),
   (0x303, "ANOanoIiUuVvÂâĂăEeÊêÔôƠơƯưYy",
      "ÃÑÕãñõĨĩŨũṼṽẪẫẴẵẼẽỄễỖỗỠỡỮữỸỹ"),
   (0x304, "AaEeIiOoUuÜüÄäȦȧÆæǪǫÖöÕõȮȯYyИиУуGgḶḷṚṛαΑιΙυΥ",
      "ĀāĒēĪīŌōŪūǕǖǞǟǠǡǢǣǬǭȪȫȬȭȰȱȲȳӢӣӮӯḠḡḸḹṜṝᾱᾹῑῙῡῩ"),
   (0x306, "AaEeGgIiOoUuУИиуЖжАаЕеȨȩẠạαΑιΙυΥ",
      "ĂăĔĕĞğĬĭŎŏŬŭЎЙйўӁӂӐӑӖӗḜḝẶặᾰᾸῐῘῠῨ"),
   (0x307, "CcEeGgIZzAaOoBbDdFfHhMmNnPpRrSsŚśŠšṢṣTtWwXxYyſ",
      "ĊċĖėĠġİŻżȦȧȮȯḂḃḊḋḞḟḢḣṀṁṄṅṖṗṘṙṠṡṤṥṦṧṨṩṪṫẆẇẊẋẎẏẛ"),
   (0x308, "AEIOUaeiouyYΙΥιυϒЕІеіАаӘәЖжЗзИиОоӨөЭэУуЧчЫыHhÕõŪūWwXxt",
      "ÄËÏÖÜäëïöüÿŸΪΫϊϋϔЁЇёїӒӓӚӛӜӝӞӟӤӥӦӧӪӫӬӭӰӱӴӵӸӹḦḧṎṏṺṻẄẅẌẍẗ"),
   (0x309, "AaÂâĂăEeÊêIiOoÔôƠơUuƯưYy",
      "ẢảẨẩẲẳẺẻỂểỈỉỎỏỔổỞởỦủỬửỶỷ"),
   (0x30a, "AaUuwy",
      "ÅåŮůẘẙ"),
   (0x30b, "OoUuУу",
      "ŐőŰűӲӳ"),
   (0x30c, "CcDdEeLlNnRrSsTtZzAaIiOoUuÜüGgKkƷʒjHh",
      "ČčĎďĚěĽľŇňŘřŠšŤťŽžǍǎǏǐǑǒǓǔǙǚǦǧǨǩǮǯǰȞȟ"),
   (0x30f, "AaEeIiOoRrUuѴѵ",
      "ȀȁȄȅȈȉȌȍȐȑȔȕѶѷ"),
   (0x311, "AaEeIiOoRrUu",
      "ȂȃȆȇȊȋȎȏȒȓȖȗ"),
   (0x313, "αΑεΕηΗιΙοΟυωΩρ",
      "ἀἈἐἘἠἨἰἸὀὈὐὠὨῤ"),
   (0x314, "αΑεΕηΗιΙοΟυΥωΩρΡ",
      "ἁἉἑἙἡἩἱἹὁὉὑὙὡὩῥῬ"),
   (0x31b, "OoUu",
      "ƠơƯư"),
   (0x323, "BbDdHhKkLlMmNnRrSsTtVvWwZzAaEeIiOoƠơUuƯưYy",
      "ḄḅḌḍḤḥḲḳḶḷṂṃṆṇṚṛṢṣṬṭṾṿẈẉẒẓẠạẸẹỊịỌọỢợỤụỰựỴỵ"),
   (0x324, "Uu",
      "Ṳṳ"),
   (0x325, "Aa",
      "Ḁḁ"),
   (0x326, "SsTt",
      "ȘșȚț"),
   (0x327, "CcGgKkLlNnRrSsTtEeDdHh",
      "ÇçĢģĶķĻļŅņŖŗŞşŢţȨȩḐḑḨḩ"),
   (0x328, "AaEeIiUuOo",
      "ĄąĘęĮįŲųǪǫ"),
   (0x32d, "DdEeLlNnTtUu",
      "ḒḓḘḙḼḽṊṋṰṱṶṷ"),
   (0x32e, "Hh",
      "Ḫḫ"),
   (0x330, "EeIiUu",
      "ḚḛḬḭṴṵ"),
   (0x331, "BbDdKkLlNnRrTtZzh",
      "ḆḇḎḏḴḵḺḻṈṉṞṟṮṯẔẕẖ"),
   (0x338, "←→↔⇐⇔⇒∃∈∋∣∥∼≃≅≈=≡≍<>≤≥≲≳≶≷≺≻⊂⊃⊆⊇⊢⊨⊩⊫≼≽⊑⊒⊲⊳⊴⊵",
      "↚↛↮⇍⇎⇏∄∉∌∤∦≁≄≇≉≠≢≭≮≯≰≱≴≵≸≹⊀⊁⊄⊅⊈⊉⊬⊭⊮⊯⋠⋡⋢⋣⋪⋫⋬⋭"),
   (0x342, "ἀἁἈἉἠἡἨἩἰἱἸἹὐὑὙὠὡὨὩα¨η᾿ιϊ῾υϋω",
      "ἆἇἎἏἦἧἮἯἶἷἾἿὖὗὟὦὧὮὯᾶ῁ῆ῏ῖῗ῟ῦῧῶ"),
   (0x345, "ἀἁἂἃἄἅἆἇἈἉἊἋἌἍἎἏἠἡἢἣἤἥἦἧἨἩἪἫἬἭἮἯὠὡὢὣὤὥὦὧὨὩὪὫὬὭὮὯὰαάᾶΑὴηήῆΗὼωώῶΩ",
      "ᾀᾁᾂᾃᾄᾅᾆᾇᾈᾉᾊᾋᾌᾍᾎᾏᾐᾑᾒᾓᾔᾕᾖᾗᾘᾙᾚᾛᾜᾝᾞᾟᾠᾡᾢᾣᾤᾥᾦᾧᾨᾩᾪᾫᾬᾭᾮᾯᾲᾳᾴᾷᾼῂῃῄῇῌῲῳῴῷῼ"),
   (0x653, "\u0627",
      "\u0622"),
   (0x654, "\u0627\u0648\u064a\u06d5\u06c1\u06d2",
      "\u0623\u0624\u0626\u06c0\u06c2\u06d3"),
   (0x655, "\u0627",
      "\u0625"),
   (0x93c, "नरळ",
      "ऩऱऴ"),
   (0x9be, "\u09c7",
      "\u09cb"),
   (0x9d7, "\u09c7",
      "\u09cc"),
   (0xb3e, "\u0b47",
      "\u0b4b"),
   (0xb56, "\u0b47",
      "\u0b48"),
   (0xb57, "\u0b47",
      "\u0b4c"),
   (0xbbe, "\u0bc6\u0bc7",
      "\u0bca\u0bcb"),
   (0xbd7, "ஒ\u0bc6",
      "ஔ\u0bcc"),
   (0xc56, "\u0c46",
      "\u0c48"),
   (0xcc2, "\u0cc6",
      "\u0cca"),
   (0xcd5, "\u0cbf\u0cc6\u0cca",
      "\u0cc0\u0cc7\u0ccb"),
   (0xcd6, "\u0cc6",
      "\u0cc8"),
   (0xd3e, "\u0d46\u0d47",
      "\u0d4a\u0d4b"),
   (0xd57, "\u0d46",
      "\u0d4c"),
   (0xdca, "\u0dd9\u0ddc",
      "\u0dda\u0ddd"),
   (0xdcf, "\u0dd9",
      "\u0ddc"),
   (0xddf, "\u0dd9",
      "\u0dde"),
   (0x102e, "ဥ",
      "ဦ"),
   (0x1b35, "ᬅᬇᬉᬋᬍᬑ\u1b3a\u1b3c\u1b3e\u1b3f\u1b42",
      "ᬆᬈᬊᬌᬎᬒ\u1b3b\u1b3d\u1b40\u1b41\u1b43"),
   (0x3099, "かきくけこさしすせそたちつてとはひふへほうゝカキクケコサシスセソタチツテトハヒフヘホウワヰヱヲヽ",
      "がぎぐげござじずぜぞだぢづでどばびぶべぼゔゞガギグゲゴザジズゼゾダヂヅデドバビブベボヴヷヸヹヺヾ"),
   (0x309a, "はひふへほハヒフヘホ",
      "ぱぴぷぺぽパピプペポ"),
   (0x110ba, "𑂙𑂛𑂥",
      "𑂚𑂜𑂫"),
   (0x11127, "𑄱𑄲",
      "𑄮𑄯"),
   (0x1133e, "𑍇",
      "𑍋"),
   (0x11357, "𑍇",
      "𑍌"),
   (0x114b0, "𑒹",
      "𑒼"),
   (0x114ba, "𑒹",
      "𑒻"),
   (0x114bd, "𑒹",
      "𑒾"),
   (0x115af, "𑖸𑖹",
      "𑖺𑖻"),
   (0x11930, "𑤵",
      "𑤸")]

/-- The characters that only stand for others: each with those that it stands for. -/
def standInTable : List (String × String) :=
  [("\u0340\u0341\u0343ʹ\u037e\u0387άέήίόύώΆιΈΉΐΊΰΎ΅`ΌΏ´\u2000\u2001ΩKÅ\u2329\u232a豈更車賈滑串句龜龜契金喇奈" ++
      "懶癩羅蘿",
      "\u0300\u0301\u0313ʹ;\u00b7άέήίόύώΆιΈΉΐΊΰΎ΅`ΌΏ´\u2002\u2003ΩKÅ\u3008\u3009豈更車賈滑串句龜龜契金喇奈懶癩羅蘿"),
   ("螺裸邏樂洛烙珞落酪駱亂卵欄爛蘭鸞嵐濫藍襤拉臘蠟廊朗浪狼郎來冷勞擄櫓爐盧老蘆虜路露魯鷺碌祿綠菉錄鹿論壟",
      "螺裸邏樂洛烙珞落酪駱亂卵欄爛蘭鸞嵐濫藍襤拉臘蠟廊朗浪狼郎來冷勞擄櫓爐盧老蘆虜路露魯鷺碌祿綠菉錄鹿論壟"),
   ("弄籠聾牢磊賂雷壘屢樓淚漏累縷陋勒肋凜凌稜綾菱陵讀拏樂諾丹寧怒率異北磻便復不泌數索參塞省葉說殺辰沈拾若",
      "弄籠聾牢磊賂雷壘屢樓淚漏累縷陋勒肋凜凌稜綾菱陵讀拏樂諾丹寧怒率異北磻便復不泌數索參塞省葉說殺辰沈拾若"),
   ("掠略亮兩凉梁糧良諒量勵呂女廬旅濾礪閭驪麗黎力曆歷轢年憐戀撚漣煉璉秊練聯輦蓮連鍊列劣咽烈裂說廉念捻殮簾",
      "掠略亮兩凉梁糧良諒量勵呂女廬旅濾礪閭驪麗黎力曆歷轢年憐戀撚漣煉璉秊練聯輦蓮連鍊列劣咽烈裂說廉念捻殮簾"),
   ("獵令囹寧嶺怜玲瑩羚聆鈴零靈領例禮醴隸惡了僚寮尿料樂燎療蓼遼龍暈阮劉杻柳流溜琉留硫紐類六戮陸倫崙淪輪律",
      "獵令囹寧嶺怜玲瑩羚聆鈴零靈領例禮醴隸惡了僚寮尿料樂燎療蓼遼龍暈阮劉杻柳流溜琉留硫紐類六戮陸倫崙淪輪律"),
   ("慄栗率隆利吏履易李梨泥理痢罹裏裡里離匿溺吝燐璘藺隣鱗麟林淋臨立笠粒狀炙識什茶刺切度拓糖宅洞暴輻行降見",
      "慄栗率隆利吏履易李梨泥理痢罹裏裡里離匿溺吝燐璘藺隣鱗麟林淋臨立笠粒狀炙識什茶刺切度拓糖宅洞暴輻行降見"),
   ("廓兀嗀塚晴凞猪益礼神祥福靖精羽蘒諸逸都飯飼館鶴郞隷侮僧免勉勤卑喝嘆器塀墨層屮悔慨憎懲敏既暑梅海渚漢煮",
      "廓兀嗀塚晴凞猪益礼神祥福靖精羽蘒諸逸都飯飼館鶴郞隷侮僧免勉勤卑喝嘆器塀墨層屮悔慨憎懲敏既暑梅海渚漢煮"),
   ("爫琢碑社祉祈祐祖祝禍禎穀突節練縉繁署者臭艹艹著褐視謁謹賓贈辶逸難響頻恵𤋮舘並况全侀充冀勇勺喝啕喙嗢塚",
      "爫琢碑社祉祈祐祖祝禍禎穀突節練縉繁署者臭艹艹著褐視謁謹賓贈辶逸難響頻恵𤋮舘並况全侀充冀勇勺喝啕喙嗢塚"),
   ("墳奄奔婢嬨廒廙彩徭惘慎愈憎慠懲戴揄搜摒敖晴朗望杖歹殺流滛滋漢瀞煮瞧爵犯猪瑱甆画瘝瘟益盛直睊着磌窱節类",
      "墳奄奔婢嬨廒廙彩徭惘慎愈憎慠懲戴揄搜摒敖晴朗望杖歹殺流滛滋漢瀞煮瞧爵犯猪瑱甆画瘝瘟益盛直睊着磌窱節类"),
   ("絛練缾者荒華蝹襁覆視調諸請謁諾諭謹變贈輸遲醙鉶陼難靖韛響頋頻鬒龜𢡊𢡄𣏕㮝䀘䀹𥉉𥳐𧻓齃龎丽丸乁𠄢你侮侻",
      "絛練缾者荒華蝹襁覆視調諸請謁諾諭謹變贈輸遲醙鉶陼難靖韛響頋頻鬒龜𢡊𢡄𣏕㮝䀘䀹𥉉𥳐𧻓齃龎丽丸乁𠄢你侮侻"),
   ("倂偺備僧像㒞𠘺免兔兤具𠔜㒹內再𠕋冗冤仌冬况𩇟凵刃㓟刻剆割剷㔕勇勉勤勺包匆北卉卑博即卽卿卿卿𠨬灰及叟𠭣",
      "倂偺備僧像㒞𠘺免兔兤具𠔜㒹內再𠕋冗冤仌冬况𩇟凵刃㓟刻剆割剷㔕勇勉勤勺包匆北卉卑博即卽卿卿卿𠨬灰及叟𠭣"),
   ("叫叱吆咞吸呈周咢哶唐啓啣善善喙喫喳嗂圖嘆圗噑噴切壮城埴堍型堲報墬𡓤売壷夆多夢奢𡚨𡛪姬娛娧姘婦㛮㛼嬈嬾",
      "叫叱吆咞吸呈周咢哶唐啓啣善善喙喫喳嗂圖嘆圗噑噴切壮城埴堍型堲報墬𡓤売壷夆多夢奢𡚨𡛪姬娛娧姘婦㛮㛼嬈嬾"),
   ("嬾𡧈寃寘寧寳𡬘寿将当尢㞁屠屮峀岍𡷤嵃𡷦嵮嵫嵼巡巢㠯巽帨帽幩㡢𢆃㡼庰庳庶廊𪎒廾𢌱𢌱舁弢弢㣇𣊸𦇚形彫㣣徚",
      "嬾𡧈寃寘寧寳𡬘寿将当尢㞁屠屮峀岍𡷤嵃𡷦嵮嵫嵼巡巢㠯巽帨帽幩㡢𢆃㡼庰庳庶廊𪎒廾𢌱𢌱舁弢弢㣇𣊸𦇚形彫㣣徚"),
   ("忍志忹悁㤺㤜悔𢛔惇慈慌慎慌慺憎憲憤憯懞懲懶成戛扝抱拔捐𢬌挽拼捨掃揤𢯱搢揅掩㨮摩摾撝摷㩬敏敬𣀊旣書晉㬙",
      "忍志忹悁㤺㤜悔𢛔惇慈慌慎慌慺憎憲憤憯懞懲懶成戛扝抱拔捐𢬌挽拼捨掃揤𢯱搢揅掩㨮摩摾撝摷㩬敏敬𣀊旣書晉㬙"),
   ("暑㬈㫤冒冕最暜肭䏙朗望朡杞杓𣏃㭉柺枅桒梅𣑭梎栟椔㮝楂榣槪檨𣚣櫛㰘次𣢧歔㱎歲殟殺殻𣪍𡴋𣫺汎𣲼沿泍汧洖派",
      "暑㬈㫤冒冕最暜肭䏙朗望朡杞杓𣏃㭉柺枅桒梅𣑭梎栟椔㮝楂榣槪檨𣚣櫛㰘次𣢧歔㱎歲殟殺殻𣪍𡴋𣫺汎𣲼沿泍汧洖派"),
   ("海流浩浸涅𣴞洴港湮㴳滋滇𣻑淹潮𣽞𣾎濆瀹瀞瀛㶖灊災灷炭𠔥煅𤉣熜𤎫爨爵牐𤘈犀犕𤜵𤠔獺王㺬玥㺸㺸瑇瑜瑱璅瓊",
      "海流浩浸涅𣴞洴港湮㴳滋滇𣻑淹潮𣽞𣾎濆瀹瀞瀛㶖灊災灷炭𠔥煅𤉣熜𤎫爨爵牐𤘈犀犕𤜵𤠔獺王㺬玥㺸㺸瑇瑜瑱璅瓊"),
   ("㼛甤𤰶甾𤲒異𢆟瘐𤾡𤾸𥁄㿼䀈直𥃳𥃲𥄙𥄳眞真真睊䀹瞋䁆䂖𥐝硎碌磌䃣𥘦祖𥚚𥛅福秫䄯穀穊穏𥥼𥪧𥪧竮䈂𥮫篆築䈧",
      "㼛甤𤰶甾𤲒異𢆟瘐𤾡𤾸𥁄㿼䀈直𥃳𥃲𥄙𥄳眞真真睊䀹瞋䁆䂖𥐝硎碌磌䃣𥘦祖𥚚𥛅福秫䄯穀穊穏𥥼𥪧𥪧竮䈂𥮫篆築䈧"),
   ("𥲀糒䊠糨糣紀𥾆絣䌁緇縂繅䌴𦈨𦉇䍙𦋙罺𦌾羕翺者𦓚𦔣聠𦖨聰𣍟䏕育脃䐋脾媵𦞧𦞵𣎓𣎜舁舄辞䑫芑芋芝劳花芳芽苦",
      "𥲀糒䊠糨糣紀𥾆絣䌁緇縂繅䌴𦈨𦉇䍙𦋙罺𦌾羕翺者𦓚𦔣聠𦖨聰𣍟䏕育脃䐋脾媵𦞧𦞵𣎓𣎜舁舄辞䑫芑芋芝劳花芳芽苦"),
   ("𦬼若茝荣莭茣莽菧著荓菊菌菜𦰶𦵫𦳕䔫蓱蓳蔖𧏊蕤𦼬䕝䕡𦾱𧃒䕫虐虜虧虩蚩蚈蜎蛢蝹蜨蝫螆䗗蟡蠁䗹衠衣𧙧裗裞䘵",
      "𦬼若茝荣莭茣莽菧著荓菊菌菜𦰶𦵫𦳕䔫蓱蓳蔖𧏊蕤𦼬䕝䕡𦾱𧃒䕫虐虜虧虩蚩蚈蜎蛢蝹蜨蝫螆䗗蟡蠁䗹衠衣𧙧裗裞䘵"),
   ("裺㒻𧢮𧥦䚾䛇誠諭變豕𧲨貫賁贛起𧼯𠠄跋趼跰𠣞軔輸𨗒𨗭邔郱鄑𨜮鄛鈸鋗鋘鉼鏹鐕𨯺開䦕閷𨵷䧦雃嶲霣𩅅𩈚䩮䩶韠",
      "裺㒻𧢮𧥦䚾䛇誠諭變豕𧲨貫賁贛起𧼯𠠄跋趼跰𠣞軔輸𨗒𨗭邔郱鄑𨜮鄛鈸鋗鋘鉼鏹鐕𨯺開䦕閷𨵷䧦雃嶲霣𩅅𩈚䩮䩶韠"),
   ("𩐊䪲𩒖頋頋頩𩖶飢䬳餩馧駂駾䯎𩬰鬒鱀鳽䳎䳭鵧𪃎䳸𪄅𪈎𪊑麻䵖黹黾鼅鼏鼖鼻𪘀",
      "𩐊䪲𩒖頋頋頩𩖶飢䬳餩馧駂駾䯎𩬰鬒鱀鳽䳎䳭鵧𪃎䳸𪄅𪈎𪊑麻䵖黹黾鼅鼏鼖鼻𪘀")]

/-- The characters that only stand for a pair: they, and the first and second characters of their
pairs. -/
def pairTable : List (String × String × String) :=
  [("\u0344क़ख़ग़ज़ड़ढ़फ़य़ড়ঢ়য়ਲ਼ਸ਼ਖ਼ਗ਼ਜ਼ਫ਼ଡ଼ଢ଼གྷཌྷདྷབྷཛྷཀྵ\u0f73\u0f75\u0f76\u0f78",
      "\u0308कखगजडढफयডঢযਲਸਖਗਜਫଡଢགཌདབཛཀ\u0f71\u0f71\u0fb2\u0fb3",
      "\u0301\u093c\u093c\u093c\u093c\u093c\u093c\u093c\u093c\u09bc\u09bc\u09bc\u0a3c\u0a3c" ++
      "\u0a3c\u0a3c\u0a3c\u0a3c\u0b3c\u0b3c\u0fb7\u0fb7\u0fb7\u0fb7\u0fb7\u0fb5\u0f72\u0f74" ++
      "\u0f80\u0f80"),
   ("\u0f81\u0f93\u0f9d\u0fa2\u0fa7\u0fac\u0fb9⫝̸\ufb1d\ufb1f\ufb2a\ufb2b\ufb2c\ufb2d\ufb2e\ufb2f" ++
      "\ufb30\ufb31\ufb32\ufb33\ufb34\ufb35\ufb36\ufb38\ufb39\ufb3a\ufb3b\ufb3c\ufb3e\ufb40",
      "\u0f71\u0f92\u0f9c\u0fa1\u0fa6\u0fab\u0f90⫝\u05d9\u05f2\u05e9\u05e9\ufb49\ufb49\u05d0" ++
      "\u05d0\u05d0\u05d1\u05d2\u05d3\u05d4\u05d5\u05d6\u05d8\u05d9\u05da\u05db\u05dc\u05de\u05e0",
      "\u0f80\u0fb7\u0fb7\u0fb7\u0fb7\u0fb7\u0fb5\u0338\u05b4\u05b7\u05c1\u05c2\u05c1\u05c2" ++
      "\u05b7\u05b8\u05bc\u05bc\u05bc\u05bc\u05bc\u05bc\u05bc\u05bc\u05bc\u05bc\u05bc\u05bc" ++
      "\u05bc\u05bc"),
   ("\ufb41\ufb43\ufb44\ufb46\ufb47\ufb48\ufb49\ufb4a\ufb4b\ufb4c\ufb4d\ufb4e𝅗𝅥𝅘𝅥𝅘𝅥𝅮𝅘𝅥𝅯𝅘𝅥𝅰𝅘𝅥𝅱𝅘𝅥𝅲𝆹𝅥𝆺𝅥𝆹𝅥𝅮𝆺𝅥𝅮𝆹𝅥𝅯𝆺𝅥𝅯",
      "\u05e1\u05e3\u05e4\u05e6\u05e7\u05e8\u05e9\u05ea\u05d5\u05d1\u05db\u05e4𝅗𝅘𝅘𝅥𝅘𝅥𝅘𝅥𝅘𝅥𝅘𝅥𝆹𝆺𝆹𝅥𝆺𝅥𝆹𝅥𝆺𝅥",
      "\u05bc\u05bc\u05bc\u05bc\u05bc\u05bc\u05bc\u05bc\u05b9\u05bf\u05bf\u05bf𝅥𝅥𝅮𝅯𝅰𝅱𝅲𝅥𝅥𝅮𝅮𝅯𝅯")]

/-- The classes of marks: marks of one class stay in their order, those of a lower class come
first. -/
def markClassTable : List (Nat × List (Nat × Nat)) :=
  [(1,
     [(0x334, 0x338), (0x1cd4, 0x1cd4), (0x1ce2, 0x1ce8), (0x20d2, 0x20d3), (0x20d8, 0x20da),
      (0x20e5, 0x20e6), (0x20ea, 0x20eb), (0x10a39, 0x10a39), (0x16af0, 0x16af4),
      (0x1bc9e, 0x1bc9e), (0x1d167, 0x1d169)]),
   (6,
     [(0x16ff0, 0x16ff1)]),
   (7,
     [(0x93c, 0x93c), (0x9bc, 0x9bc), (0xa3c, 0xa3c), (0xabc, 0xabc), (0xb3c, 0xb3c),
       (0xc3c, 0xc3c),
      (0xcbc, 0xcbc), (0x1037, 0x1037), (0x1b34, 0x1b34), (0x1be6, 0x1be6), (0x1c37, 0x1c37),
      (0xa9b3, 0xa9b3), (0x110ba, 0x110ba), (0x11173, 0x11173), (0x111ca, 0x111ca),
      (0x11236, 0x11236), (0x112e9, 0x112e9), (0x1133b, 0x1133c), (0x11446, 0x11446),
      (0x114c3, 0x114c3), (0x115c0, 0x115c0), (0x116b7, 0x116b7), (0x1183a, 0x1183a),
      (0x11943, 0x11943), (0x11d42, 0x11d42), (0x1e94a, 0x1e94a)]),
   (8,
     [(0x3099, 0x309a)]),
   (9,
     [(0x94d, 0x94d), (0x9cd, 0x9cd), (0xa4d, 0xa4d), (0xacd, 0xacd), (0xb4d, 0xb4d),
       (0xbcd, 0xbcd),
      (0xc4d, 0xc4d), (0xccd, 0xccd), (0xd3b, 0xd3c), (0xd4d, 0xd4d), (0xdca, 0xdca),
      (0xe3a, 0xe3a), (0xeba, 0xeba), (0xf84, 0xf84), (0x1039, 0x103a), (0x1714, 0x1715),
      (0x1734, 0x1734), (0x17d2, 0x17d2), (0x1a60, 0x1a60), (0x1b44, 0x1b44), (0x1baa, 0x1bab),
      (0x1bf2, 0x1bf3), (0x2d7f, 0x2d7f), (0xa806, 0xa806), (0xa82c, 0xa82c), (0xa8c4, 0xa8c4),
      (0xa953, 0xa953), (0xa9c0, 0xa9c0), (0xaaf6, 0xaaf6), (0xabed, 0xabed), (0x10a3f, 0x10a3f),
      (0x11046, 0x11046), (0x11070, 0x11070), (0x1107f, 0x1107f), (0x110b9, 0x110b9),
      (0x11133, 0x11134), (0x111c0, 0x111c0), (0x11235, 0x11235), (0x112ea, 0x112ea),
      (0x1134d, 0x1134d), (0x11442, 0x11442), (0x114c2, 0x114c2), (0x115bf, 0x115bf),
      (0x1163f, 0x1163f), (0x116b6, 0x116b6), (0x1172b, 0x1172b), (0x11839, 0x11839),
      (0x1193d, 0x1193e), (0x119e0, 0x119e0), (0x11a34, 0x11a34), (0x11a47, 0x11a47),
      (0x11a99, 0x11a99), (0x11c3f, 0x11c3f), (0x11d44, 0x11d45), (0x11d97, 0x11d97),
      (0x11f41, 0x11f42)]),
   (10,
     [(0x5b0, 0x5b0)]),
   (11,
     [(0x5b1, 0x5b1)]),
   (12,
     [(0x5b2, 0x5b2)]),
   (13,
     [(0x5b3, 0x5b3)]),
   (14,
     [(0x5b4, 0x5b4)]),
   (15,
     [(0x5b5, 0x5b5)]),
   (16,
     [(0x5b6, 0x5b6)]),
   (17,
     [(0x5b7, 0x5b7)]),
   (18,
     [(0x5b8, 0x5b8), (0x5c7, 0x5c7)]),
   (19,
     [(0x5b9, 0x5ba)]),
   (20,
     [(0x5bb, 0x5bb)]),
   (21,
     [(0x5bc, 0x5bc)]),
   (22,
     [(0x5bd, 0x5bd)]),
   (23,
     [(0x5bf, 0x5bf)]),
   (24,
     [(0x5c1, 0x5c1)]),
   (25,
     [(0x5c2, 0x5c2)]),
   (26,
     [(0xfb1e, 0xfb1e)]),
   (27,
     [(0x64b, 0x64b), (0x8f0, 0x8f0)]),
   (28,
     [(0x64c, 0x64c), (0x8f1, 0x8f1)]),
   (29,
     [(0x64d, 0x64d), (0x8f2, 0x8f2)]),
   (30,
     [(0x618, 0x618), (0x64e, 0x64e)]),
   (31,
     [(0x619, 0x619), (0x64f, 0x64f)]),
   (32,
     [(0x61a, 0x61a), (0x650, 0x650)]),
   (33,
     [(0x651, 0x651)]),
   (34,
     [(0x652, 0x652)]),
   (35,
     [(0x670, 0x670)]),
   (36,
     [(0x711, 0x711)]),
   (84,
     [(0xc55, 0xc55)]),
   (91,
     [(0xc56, 0xc56)]),
   (103,
     [(0xe38, 0xe39)]),
   (107,
     [(0xe48, 0xe4b)]),
   (118,
     [(0xeb8, 0xeb9)]),
   (122,
     [(0xec8, 0xecb), (0xece, 0xece)]),
   (129,
     [(0xf71, 0xf71)]),
   (130,
     [(0xf72, 0xf72), (0xf7a, 0xf7d), (0xf80, 0xf80)]),
   (132,
     [(0xf74, 0xf74)]),
   (202,
     [(0x321, 0x322), (0x327, 0x328), (0x1dd0, 0x1dd0)]),
   (214,
     [(0x1dce, 0x1dce)]),
   (216,
     [(0x31b, 0x31b), (0xf39, 0xf39), (0x1d165, 0x1d166), (0x1d16e, 0x1d172)]),
   (218,
     [(0x1dfa, 0x1dfa), (0x302a, 0x302a)]),
   (220,
     [(0x316, 0x319), (0x31c, 0x320), (0x323, 0x326), (0x329, 0x333), (0x339, 0x33c),
       (0x347, 0x349),
      (0x34d, 0x34e), (0x353, 0x356), (0x359, 0x35a), (0x591, 0x591), (0x596, 0x596),
      (0x59b, 0x59b), (0x5a2, 0x5a7), (0x5aa, 0x5aa), (0x5c5, 0x5c5), (0x655, 0x656),
      (0x65c, 0x65c), (0x65f, 0x65f), (0x6e3, 0x6e3), (0x6ea, 0x6ea), (0x6ed, 0x6ed),
      (0x731, 0x731), (0x734, 0x734), (0x737, 0x739), (0x73b, 0x73c), (0x73e, 0x73e),
      (0x742, 0x742), (0x744, 0x744), (0x746, 0x746), (0x748, 0x748), (0x7f2, 0x7f2),
      (0x7fd, 0x7fd), (0x859, 0x85b), (0x899, 0x89b), (0x8cf, 0x8d3), (0x8e3, 0x8e3),
      (0x8e6, 0x8e6), (0x8e9, 0x8e9), (0x8ed, 0x8ef), (0x8f6, 0x8f6), (0x8f9, 0x8fa),
      (0x952, 0x952), (0xf18, 0xf19), (0xf35, 0xf35), (0xf37, 0xf37), (0xfc6, 0xfc6),
      (0x108d, 0x108d), (0x193b, 0x193b), (0x1a18, 0x1a18), (0x1a7f, 0x1a7f), (0x1ab5, 0x1aba),
      (0x1abd, 0x1abd), (0x1abf, 0x1ac0), (0x1ac3, 0x1ac4), (0x1aca, 0x1aca), (0x1b6c, 0x1b6c),
      (0x1cd5, 0x1cd9), (0x1cdc, 0x1cdf), (0x1ced, 0x1ced), (0x1dc2, 0x1dc2), (0x1dca, 0x1dca),
      (0x1dcf, 0x1dcf), (0x1df9, 0x1df9), (0x1dfd, 0x1dfd), (0x1dff, 0x1dff), (0x20e8, 0x20e8),
      (0x20ec, 0x20ef), (0xa92b, 0xa92d), (0xaab4, 0xaab4), (0xfe27, 0xfe2d), (0x101fd, 0x101fd),
      (0x102e0, 0x102e0), (0x10a0d, 0x10a0d), (0x10a3a, 0x10a3a), (0x10ae6, 0x10ae6),
      (0x10efd, 0x10eff), (0x10f46, 0x10f47), (0x10f4b, 0x10f4b), (0x10f4d, 0x10f50),
      (0x10f83, 0x10f83), (0x10f85, 0x10f85), (0x1d17b, 0x1d182), (0x1d18a, 0x1d18b),
      (0x1e4ee, 0x1e4ee), (0x1e8d0, 0x1e8d6)]),
   (222,
     [(0x59a, 0x59a), (0x5ad, 0x5ad), (0x1939, 0x1939), (0x302d, 0x302d)]),
   (224,
     [(0x302e, 0x302f)]),
   (226,
     [(0x1d16d, 0x1d16d)]),
   (228,
     [(0x5ae, 0x5ae), (0x18a9, 0x18a9), (0x1df7, 0x1df8), (0x302b, 0x302b)]),
   (230,
     [(0x300, 0x314), (0x33d, 0x344), (0x346, 0x346), (0x34a, 0x34c), (0x350, 0x352),
       (0x357, 0x357),
      (0x35b, 0x35b), (0x363, 0x36f), (0x483, 0x487), (0x592, 0x595), (0x597, 0x599),
      (0x59c, 0x5a1), (0x5a8, 0x5a9), (0x5ab, 0x5ac), (0x5af, 0x5af), (0x5c4, 0x5c4),
      (0x610, 0x617), (0x653, 0x654), (0x657, 0x65b), (0x65d, 0x65e), (0x6d6, 0x6dc),
      (0x6df, 0x6e2), (0x6e4, 0x6e4), (0x6e7, 0x6e8), (0x6eb, 0x6ec), (0x730, 0x730),
      (0x732, 0x733), (0x735, 0x736), (0x73a, 0x73a), (0x73d, 0x73d), (0x73f, 0x741),
      (0x743, 0x743), (0x745, 0x745), (0x747, 0x747), (0x749, 0x74a), (0x7eb, 0x7f1),
      (0x7f3, 0x7f3), (0x816, 0x819), (0x81b, 0x823), (0x825, 0x827), (0x829, 0x82d),
      (0x898, 0x898), (0x89c, 0x89f), (0x8ca, 0x8ce), (0x8d4, 0x8e1), (0x8e4, 0x8e5),
      (0x8e7, 0x8e8), (0x8ea, 0x8ec), (0x8f3, 0x8f5), (0x8f7, 0x8f8), (0x8fb, 0x8ff),
      (0x951, 0x951), (0x953, 0x954), (0x9fe, 0x9fe), (0xf82, 0xf83), (0xf86, 0xf87),
      (0x135d, 0x135f), (0x17dd, 0x17dd), (0x193a, 0x193a), (0x1a17, 0x1a17), (0x1a75, 0x1a7c),
      (0x1ab0, 0x1ab4), (0x1abb, 0x1abc), (0x1ac1, 0x1ac2), (0x1ac5, 0x1ac9), (0x1acb, 0x1ace),
      (0x1b6b, 0x1b6b), (0x1b6d, 0x1b73), (0x1cd0, 0x1cd2), (0x1cda, 0x1cdb), (0x1ce0, 0x1ce0),
      (0x1cf4, 0x1cf4), (0x1cf8, 0x1cf9), (0x1dc0, 0x1dc1), (0x1dc3, 0x1dc9), (0x1dcb, 0x1dcc),
      (0x1dd1, 0x1df5), (0x1dfb, 0x1dfb), (0x1dfe, 0x1dfe), (0x20d0, 0x20d1), (0x20d4, 0x20d7),
      (0x20db, 0x20dc), (0x20e1, 0x20e1), (0x20e7, 0x20e7), (0x20e9, 0x20e9), (0x20f0, 0x20f0),
      (0x2cef, 0x2cf1), (0x2de0, 0x2dff), (0xa66f, 0xa66f), (0xa674, 0xa67d), (0xa69e, 0xa69f),
      (0xa6f0, 0xa6f1), (0xa8e0, 0xa8f1), (0xaab0, 0xaab0), (0xaab2, 0xaab3), (0xaab7, 0xaab8),
      (0xaabe, 0xaabf), (0xaac1, 0xaac1), (0xfe20, 0xfe26), (0xfe2e, 0xfe2f), (0x10376, 0x1037a),
      (0x10a0f, 0x10a0f), (0x10a38, 0x10a38), (0x10ae5, 0x10ae5), (0x10d24, 0x10d27),
      (0x10eab, 0x10eac), (0x10f48, 0x10f4a), (0x10f4c, 0x10f4c), (0x10f82, 0x10f82),
      (0x10f84, 0x10f84), (0x11100, 0x11102), (0x11366, 0x1136c), (0x11370, 0x11374),
      (0x1145e, 0x1145e), (0x16b30, 0x16b36), (0x1d185, 0x1d189), (0x1d1aa, 0x1d1ad),
      (0x1d242, 0x1d244), (0x1e000, 0x1e006), (0x1e008, 0x1e018), (0x1e01b, 0x1e021),
      (0x1e023, 0x1e024), (0x1e026, 0x1e02a), (0x1e08f, 0x1e08f), (0x1e130, 0x1e136),
      (0x1e2ae, 0x1e2ae), (0x1e2ec, 0x1e2ef), (0x1e4ef, 0x1e4ef), (0x1e944, 0x1e949)]),
   (232,
     [(0x315, 0x315), (0x31a, 0x31a), (0x358, 0x358), (0x1df6, 0x1df6), (0x302c, 0x302c),
      (0x1e4ec, 0x1e4ed)]),
   (233,
     [(0x35c, 0x35c), (0x35f, 0x35f), (0x362, 0x362), (0x1dfc, 0x1dfc)]),
   (234,
     [(0x35d, 0x35e), (0x360, 0x361), (0x1dcd, 0x1dcd)]),
   (240,
     [(0x345, 0x345)])]

/-- The class of a character, zero for one that is not a mark. -/
def markClass (c : Char) : Nat :=
  match markClassTable.find? fun (_, ranges) => ranges.any fun (first, last) => first ≤ c.toNat &&
    c.toNat ≤ last with
  | some (value, _) => value
  | none => 0

/-- The first syllable of the Korean block. -/
def firstSyllable : Nat := 0xac00

/-- The letters that a Korean syllable is written with. -/
def syllableLetters (c : Char) : Option (List Char) :=
  if firstSyllable ≤ c.toNat && c.toNat < firstSyllable + 11172 then
    let place := c.toNat - firstSyllable
    let last := if place % 28 = 0 then [] else [Char.ofNat (0x11a7 + place % 28)]
    some (Char.ofNat (0x1100 + place / 588) :: Char.ofNat (0x1161 + place % 588 / 28) :: last)
  else none

/-- The Korean syllable of a first letter and a vowel, or of an open syllable and a last letter. -/
def syllable? (a b : Char) : Option Char :=
  if 0x1100 ≤ a.toNat && a.toNat < 0x1113 && 0x1161 ≤ b.toNat && b.toNat < 0x1176 then
    some (Char.ofNat (firstSyllable + ((a.toNat - 0x1100) * 21 + (b.toNat - 0x1161)) * 28))
  else if firstSyllable ≤ a.toNat && a.toNat < firstSyllable + 11172 &&
    (a.toNat - firstSyllable) % 28 = 0 &&
      0x11a8 ≤ b.toNat && b.toNat < 0x11c3 then
    some (Char.ofNat (a.toNat + (b.toNat - 0x11a7)))
  else none

/-- The place of a character in a text, counted in characters. -/
def placeOf? (text : String) (c : Char) : Option Nat := text.toList.findIdx? (· == c)

/-- What a character stands for, taken apart once. -/
def parts? (c : Char) : Option (List Char) :=
  let marked := markedTable.findSome? fun (mark, plain, whole) =>
    (placeOf? whole c).bind fun place => plain.toList[place]?.map fun first =>
      [first, Char.ofNat mark]
  let single := standInTable.findSome? fun (whole, plain) =>
    (placeOf? whole c).bind fun place => plain.toList[place]?.map fun first => [first]
  let pair := pairTable.findSome? fun (whole, firsts, seconds) =>
    (placeOf? whole c).bind fun place =>
      firsts.toList[place]?.bind fun first => seconds.toList[place]?.map fun second =>
        [first, second]
  marked <|> single <|> pair <|> syllableLetters c

/-- How often a character can be taken apart one after another. -/
def partDepth : Nat := 4

/-- The characters that a character is made of in the end. -/
def takeApart : Nat → Char → List Char
  | 0, c => [c]
  | depth + 1, c => if c.toNat < 128 then [c] else
    match parts? c with
    | some parts => parts.flatMap (takeApart depth)
    | none => [c]

/-- The characters that look like a character with one mark. -/
def oneMarkRanges : List (Nat × Nat) := [
  (0xa8, 0xa8), (0xaf, 0xaf), (0xb4, 0xb4), (0xb8, 0xb8), (0x1c4, 0x1c6), (0x2d8, 0x2dd),
  (0x37a, 0x37a), (0x384, 0x384), (0x1fbd, 0x1fbd), (0x1fbf, 0x1fc0), (0x1ffd, 0x1ffe),
  (0x2017, 0x2017), (0x203e, 0x203e), (0x309b, 0x309c), (0x326e, 0x327e), (0x3304, 0x3304),
  (0x3307, 0x3307), (0x3310, 0x3310), (0x331e, 0x331e), (0x3321, 0x3321), (0x3332, 0x3332),
  (0x333b, 0x333b), (0x3340, 0x3340), (0x334b, 0x334b), (0x334e, 0x334e), (0xfba4, 0xfba5),
  (0xfbb0, 0xfbb1), (0xfc5b, 0xfc5d), (0xfc90, 0xfc90), (0xfcd9, 0xfcd9), (0xfd3c, 0xfd3d),
  (0xfe49, 0xfe4c), (0xfe70, 0xfe72), (0xfe74, 0xfe74), (0xfe76, 0xfe7f), (0xfe81, 0xfe8c),
  (0xfef5, 0xfefa), (0xffe3, 0xffe3), (0x1f213, 0x1f213)]

/-- The characters that look like a character with two marks. -/
def twoMarkRanges : List (Nat × Nat) := [
  (0x385, 0x385), (0xf77, 0xf77), (0xf79, 0xf79), (0x1fc1, 0x1fc1), (0x1fcd, 0x1fcf),
  (0x1fdd, 0x1fdf), (0x1fed, 0x1fee), (0xfc5e, 0xfc63), (0xfcf2, 0xfcf4)]

/-- The characters that look like a mark. -/
def markLikeRanges : List (Nat × Nat) := [
  (0x3133, 0x3133), (0x3135, 0x3136), (0x313a, 0x313f), (0x314f, 0x3163), (0xff9e, 0xff9f),
  (0xffa3, 0xffa3), (0xffa5, 0xffa6), (0xffaa, 0xffaf), (0xffc2, 0xffc7), (0xffca, 0xffcf),
  (0xffd2, 0xffd7), (0xffda, 0xffdc)]

/-- Whether a character can go with the one before it: a mark, or one that makes a single character
with it. -/
def goesBehind (c : Char) : Bool :=
  0 < markClass c || markedTable.any (fun (mark, _, _) => mark = c.toNat) ||
    (0x1161 ≤ c.toNat && c.toNat < 0x1176) || (0x11a8 ≤ c.toNat && c.toNat < 0x11c3)

/-- How many marks a character starts with when it is taken apart. -/
def leadingMarks (c : Char) : Nat :=
  if c.toNat < 128 then 0
  else if inRanges markLikeRanges c.toNat then 1
  else ((takeApart partDepth c).takeWhile goesBehind).length

/-- How many marks a character ends with when it is taken apart. -/
def trailingMarks (c : Char) : Nat :=
  if c.toNat < 128 then 0
  else if inRanges markLikeRanges c.toNat || inRanges oneMarkRanges c.toNat then 1
  else if inRanges twoMarkRanges c.toNat then 2
  else ((takeApart partDepth c).reverse.takeWhile goesBehind).length

/-- The most marks that one character has. -/
def markLimit : Nat := 30

/-- The character without a look of its own that divides marks. -/
def markDivider : Char := '\u034f'

/-- Divides the marks that are too many for one character, where some marks come before. -/
def divideMarks (count : Nat) : List Char → List Char
  | [] => []
  | c :: rest =>
    let marks := leadingMarks c
    if marks = 0 then c :: divideMarks (trailingMarks c) rest
    else if markLimit < count + marks then markDivider :: c :: divideMarks marks rest
    else c :: divideMarks (count + marks) rest

/-- Puts a character before others; a mark goes behind those of lower classes. -/
def insertMark (c : Char) : List Char → List Char
  | [] => [c]
  | d :: rest => if 0 < markClass d && markClass d < markClass c then d :: insertMark c rest
      else c :: d :: rest

/-- The part of a character's number that it is looked up by when a mark is joined to it: the lower
sixteen bits. -/
def lookupKey (c : Char) : Nat := c.toNat % 0x10000

/-- The one character for a character and what follows it. -/
def joined? (a b : Char) : Option Char :=
  (markedTable.findSome? fun (mark, plain, whole) =>
    if mark = b.toNat then
      (plain.toList.findIdx? fun c => lookupKey c = lookupKey a).bind fun place =>
        whole.toList[place]?
    else none) <|> syllable? a b

/-- Joins characters with the marks on them. `held` are the marks since `start` that stay, the last
first. -/
def joinMarks (start : Char) (held : List Char) : List Char → List Char
  | [] => start :: held.reverse
  | c :: rest =>
    let free := match held with
      | [] => true
      | last :: _ => markClass last < markClass c
    match if free then joined? start c else none with
    | some whole => joinMarks whole held rest
    | none =>
      if markClass c = 0 then start :: held.reverse ++ joinMarks c [] rest
      else joinMarks start (c :: held) rest

/-- The canonical form of characters. -/
def canonicalChars (chars : List Char) : List Char :=
  match ((divideMarks 0 chars).flatMap (takeApart partDepth)).foldr insertMark [] with
  | [] => []
  | start :: rest => joinMarks start [] rest

/-- The canonical form of glyphs after the characters that are held, the last first. A stray byte
has no marks. -/
def canonicalGlyphs (held : List Char) : List Glyph → Bytes
  | [] => ofChars (canonicalChars held.reverse)
  | .char c :: rest => canonicalGlyphs (c :: held) rest
  | .stray b :: rest => ofChars (canonicalChars held.reverse) ++ b :: canonicalGlyphs [] rest

/-- The canonical form of a text. What is only ASCII is in it already. -/
def canonical (text : Bytes) : Bytes :=
  if text.all (· < 128) then text else canonicalGlyphs [] (glyphs text)

end Patchbay.Text
