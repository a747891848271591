/-!
Data for compatibility normalisation: the pairs of characters that compose, the full compatibility
decompositions of other characters (Hangul syllables excepted, they are computed), and combining
classes.
-/

namespace PrivacyScan.Text

/-- The marks that compose with letters, each with the letters and what they become. -/
def markedLetters : String :=
  "300:AÀEÈIÌNǸOÒUÙWẀYỲaàeèiìnǹoòuùwẁyỳÂẦÊỀÔỒÜǛâầêềôồüǜĂẰăằĒḔēḕŌṐōṑƠỜơờƯỪưừΑᾺΕῈΗῊΙῚΟῸΥῪ
300:ΩῺαὰεὲηὴιὶοὸυὺωὼϊῒϋῢЕЀИЍеѐиѝἀἂἁἃἈἊἉἋἐἒἑἓἘἚἙἛἠἢἡἣἨἪἩἫἰἲἱἳἸἺἹἻὀὂὁὃὈὊὉὋὐὒὑὓὙὛὠὢὡὣὨὪ 300:ὩὫ
301:AÁCĆEÉGǴIÍKḰLĹMḾNŃOÓPṔRŔSŚUÚWẂYÝZŹaácćeégǵiíkḱlĺmḿnńoópṕrŕsśuúwẃyýzźÂẤÅǺÆǼÇḈÊẾÏḮ
301:ÔỐÕṌØǾÜǗâấåǻæǽçḉêếïḯôốõṍøǿüǘĂẮăắĒḖēḗŌṒōṓŨṸũṹƠỚơớƯỨưứΑΆΕΈΗΉΙΊΟΌΥΎΩΏαάεέηήιίοόυύωώ
301:ϊΐϋΰГЃКЌгѓкќἀἄἁἅἈἌἉἍἐἔἑἕἘἜἙἝἠἤἡἥἨἬἩἭἰἴἱἵἸἼἹἽὀὄὁὅὈὌὉὍὐὔὑὕὙὝὠὤὡὥὨὬὩὭ
302:AÂCĈEÊGĜHĤIÎJĴOÔSŜUÛWŴYŶZẐaâcĉeêgĝhĥiîjĵoôsŝuûwŵyŷzẑẠẬạậẸỆẹệỌỘọộ
303:AÃEẼIĨNÑOÕUŨVṼYỸaãeẽiĩnñoõuũvṽyỹÂẪÊỄÔỖâẫêễôỗĂẴăẵƠỠơỡƯỮưữ
304:AĀEĒGḠIĪOŌUŪYȲaāeēgḡiīoōuūyȳÄǞÆǢÕȬÖȪÜǕäǟæǣõȭöȫüǖǪǬǫǭȦǠȧǡȮȰȯȱΑᾹΙῙΥῩαᾱιῑυῡИӢУӮиӣуӯ 304:ḶḸḷḹṚṜṛṝ
306:AĂEĔGĞIĬOŎUŬaăeĕgğiĭoŏuŭȨḜȩḝΑᾸΙῘΥῨαᾰιῐυῠАӐЕӖЖӁИЙУЎаӑеӗжӂийуўẠẶạặ
307:AȦBḂCĊDḊEĖFḞGĠHḢIİMṀNṄOȮPṖRṘSṠTṪWẆXẊYẎZŻaȧbḃcċdḋeėfḟgġhḣmṁnṅoȯpṗrṙsṡtṫwẇxẋyẏzżŚṤ 307:śṥŠṦšṧṢṨṣṩ
308:AÄEËHḦIÏOÖUÜWẄXẌYŸaäeëhḧiïoötẗuüwẅxẍyÿÕṎõṏŪṺūṻΙΪΥΫιϊυϋІЇАӒЕЁЖӜЗӞИӤОӦУӰЧӴЫӸЭӬаӓеё
308:жӝзӟиӥоӧуӱчӵыӹэӭіїӘӚәӛӨӪөӫ 309:AẢEẺIỈOỎUỦYỶaảeẻiỉoỏuủyỷÂẨÊỂÔỔâẩêểôổĂẲăẳƠỞơởƯỬưử 30A:AÅUŮaåuůwẘyẙ
30B:OŐUŰoőuűУӲуӳ 30C:AǍCČDĎEĚGǦHȞIǏKǨLĽNŇOǑRŘSŠTŤUǓZŽaǎcčdďeěgǧhȟiǐjǰkǩlľnňoǒrřsštťuǔzžÜǙüǚƷǮʒǯ
30F:AȀEȄIȈOȌRȐUȔaȁeȅiȉoȍrȑuȕѴѶѵѷ 311:AȂEȆIȊOȎRȒUȖaȃeȇiȋoȏrȓuȗ 313:ΑἈΕἘΗἨΙἸΟὈΩὨαἀεἐηἠιἰοὀρῤυὐωὠ
314:ΑἉΕἙΗἩΙἹΟὉΡῬΥὙΩὩαἁεἑηἡιἱοὁρῥυὑωὡ 31B:OƠUƯoơuư
323:AẠBḄDḌEẸHḤIỊKḲLḶMṂNṆOỌRṚSṢTṬUỤVṾWẈYỴZẒaạbḅdḍeẹhḥiịkḳlḷmṃnṇoọrṛsṣtṭuụvṿwẉyỵzẓƠỢơợ 323:ƯỰưự
324:UṲuṳ 325:AḀaḁ 326:SȘTȚsștț 327:CÇDḐEȨGĢHḨKĶLĻNŅRŖSŞTŢcçdḑeȩgģhḩkķlļnņrŗsştţ
328:AĄEĘIĮOǪUŲaąeęiįoǫuų 32D:DḒEḘLḼNṊTṰUṶdḓeḙlḽnṋtṱuṷ 32E:HḪhḫ 330:EḚIḬUṴeḛiḭuṵ
331:BḆDḎKḴLḺNṈRṞTṮZẔbḇdḏhẖkḵlḻnṉrṟtṯzẕ 342:αᾶηῆιῖυῦωῶϊῗϋῧἀἆἁἇἈἎἉἏἠἦἡἧἨἮἩἯἰἶἱἷἸἾἹἿὐὖὑὗὙὟὠὦὡὧὨὮὩὯ
345:ΑᾼΗῌΩῼάᾴήῄαᾳηῃωῳώῴἀᾀἁᾁἂᾂἃᾃἄᾄἅᾅἆᾆἇᾇἈᾈἉᾉἊᾊἋᾋἌᾌἍᾍἎᾎἏᾏἠᾐἡᾑἢᾒἣᾓἤᾔἥᾕἦᾖἧᾗἨᾘἩᾙἪᾚἫᾛἬᾜἭᾝἮᾞ
345:ἯᾟὠᾠὡᾡὢᾢὣᾣὤᾤὥᾥὦᾦὧᾧὨᾨὩᾩὪᾪὫᾫὬᾬὭᾭὮᾮὯᾯὰᾲὴῂὼῲᾶᾷῆῇῶῷ
3099:うゔかがきぎくぐけげこごさざしじすずせぜそぞただちぢつづてでとどはばひびふぶへべほぼゝゞウヴカガキギクグケゲコゴサザシジスズセゼソゾタダチヂツヅテデトドハバヒビ
3099:フブヘベホボワヷヰヸヱヹヲヺヽヾ 309A:はぱひぴふぷへぺほぽハパヒピフプヘペホポ"

/-- The pairs of which the other composed characters consist. -/
def compositionMap : String :=
  "622>627+653,627+654,648+654,627+655,64A+654 6C0>6D5+654 6C2>6C1+654 6D3>6D2+654 929>928+93C
931>930+93C 934>933+93C 9CB>9C7+9BE,9C7+9D7 B48>B47+B56 B4B>B47+B3E,B47+B57 B94>B92+BD7 BCA>BC6+BBE
BCB>BC7+BBE,BC6+BD7 C48>C46+C56 CC0>CBF+CD5 CC7>CC6+CD5,CC6+CD6 CCA>CC6+CC2,CCA+CD5 D4A>D46+D3E
D4B>D47+D3E,D46+D57 DDA>DD9+DCA DDC>DD9+DCF,DDC+DCA,DD9+DDF 1026>1025+102E 1B06>1B05+1B35
1B08>1B07+1B35 1B0A>1B09+1B35 1B0C>1B0B+1B35 1B0E>1B0D+1B35 1B12>1B11+1B35 1B3B>1B3A+1B35
1B3D>1B3C+1B35 1B40>1B3E+1B35,1B3F+1B35 1B43>1B42+1B35 1109A>11099+110BA 1109C>1109B+110BA
110AB>110A5+110BA 1112E>11131+11127,11132+11127 1134B>11347+1133E,11347+11357 114BB>114B9+114BA
114BC>114B9+114B0 114BE>114B9+114BD 115BA>115B8+115AF,115B9+115AF 11938>11935+11930"

/-- The full decomposition of characters that no pair composes to: of those that an identifier may
have, and of those that bring a delimiter into an address. -/
def decompositionMap : String :=
  "AA:a B5:μ BA:o 132::IJij 13F>4C+B7,6C+B7 149::ʼn 17F:s 1C4>44+5A+30C,44+7A+30C,64+7A+30C
1C7::LJLjljNJNjnj 1F1::DZDzdz 2B0:hɦjrɹɻʁwy 2E0:ɣlsxʕ 340>300-301 343>313,308+301 374:ʹ 387>B7
3D0:βθΥ 3D3>3A5+301,3A5+308,3C6,3C0 3F0:κρς 3F4:Θε 3F9:Σ 587::եւ 675::اٴوٴۇٴيٴ
958>915+93C,916+93C,917+93C,91C+93C,921+93C,922+93C,92B+93C,92F+93C 9DC>9A1+9BC,9A2+9BC 9DF>9AF+9BC
A33>A32+A3C A36>A38+A3C A59>A16+A3C,A17+A3C,A1C+A3C A5E>A2B+A3C B5C>B21+B3C,B22+B3C E33>E4D+E32
EB3>ECD+EB2 EDC::ຫນຫມ F43>F42+FB7 F4D>F4C+FB7 F52>F51+FB7 F57>F56+FB7 F5C>F5B+FB7 F69>F40+FB5
F73>F71+F72 F75>F71+F74,FB2+F80,FB2+F71+F80,FB3+F80,FB3+F71+F80 F81>F71+F80 F93>F92+FB7 F9D>F9C+FB7
FA2>FA1+FB7 FA7>FA6+FB7 FAC>FAB+FB7 FB9>F90+FB5 10FC:ნ 1D2C:AÆB 1D30:DEƎGHIJKLMN
1D3C:OȢPRTUWaɐɑᴂbdeəɛɜg 1D4F:kmŋoɔᴖᴗptuᴝɯvᴥβγδφχiruvβγρφχ 1D78:н
1D9B:ɒcɕðɜfɟɡɥɨɩɪᵻʝɭᶅʟɱɰɲɳɴɵɸʂʃƫʉʊᴜʋʌzʐʑʒθ 1E9A>61+2BE,73+307 1F71>3B1+301 1F73>3B5+301 1F75>3B7+301
1F77>3B9+301 1F79>3BF+301 1F7B>3C5+301 1F7D>3C9+301 1FBB>391+301 1FBE:ι 1FC9>395+301 1FCB>397+301
1FD3>3B9+308+301 1FDB>399+301 1FE3>3C5+308+301 1FEB>3A5+301 1FF9>39F+301 1FFB>3A9+301
2047>3F+3F,3F+21,21+3F 2071:i 207F:n 2090:aeoxəhklmnpst 2100>61+2F+63,61+2F+73,43
2105>63+2F+6F,63+2F+75,190 210A:gHHHhħIILl 2115:N 2119:PQRRR 2124:Z 2126:Ω 2128:Z
212A>4B,41+30A,42-43 212F:eEF 2133:Moאבגדi 213C:πγΓΠ 2145:Ddeij 2160>49,49+49,49+49+49,49+56,56
2165>56+49,56+49+49,56+49+49+49,49+58,58,58+49,58+49+49,4C,43-44,4D,69,69+69,69+69+69,69+76,76,76+69
2176>76+69+69,76+69+69+69,69+78,78,78+69,78+69+69 217C:lcdm 2A74>3A+3A+3D 2C7C:jV 2D6F:ⵡ 3038:十卄卅
309F::より 30FF::コト 3131>1100-1101,11AA,1102,11AC-11AD,1103-1105,11B0-11B5,111A,1106-1108,1121
3145>1109-1112,1161-1175,1160,1114-1115,11C7-11C8,11CC,11CE,11D3,11D7,11D9,111C,11DD,11DF
3171:ᄝᄞᄠᄢᄣᄧᄩᄫᄬᄭᄮᄯᄲᄶᅀᅇᅌ 3182>11F1-11F2,1157-1159,1184-1185,1188,1191-1192,1194,119E,11A1 A69C:ъь
A770:ꝯ A7F2:CFQ A7F8:Ħœ AB5C:ꜧꬷɫꭒ AB69:ʍ F900:豈更車賈滑串句龜龜契金喇奈懶癩羅蘿螺裸邏樂洛烙珞落酪駱亂卵欄爛蘭鸞嵐濫藍襤拉臘蠟廊朗浪狼郎來冷勞擄櫓爐盧老蘆
F936:虜路露魯鷺碌祿綠菉錄鹿論壟弄籠聾牢磊賂雷壘屢樓淚漏累縷陋勒肋凜凌稜綾菱陵讀拏樂諾丹寧怒率異北磻便復不泌數索參塞省葉說殺辰沈拾若掠略亮兩凉梁糧良諒量勵呂女廬旅濾礪閭驪麗黎力曆歷轢年憐戀撚漣煉璉
F995:秊練聯輦蓮連鍊列劣咽烈裂說廉念捻殮簾獵令囹寧嶺怜玲瑩羚聆鈴零靈領例禮醴隸惡了僚寮尿料樂燎療蓼遼龍暈阮劉杻柳流溜琉留硫紐類六戮陸倫崙淪輪律慄栗率隆利吏履易李梨泥理痢罹裏裡里離匿溺吝燐璘藺隣鱗麟
F9F4:林淋臨立笠粒狀炙識什茶刺切度拓糖宅洞暴輻行降見廓兀嗀 FA10:塚 FA12:晴 FA15:凞猪益礼神祥福靖精羽 FA20:蘒 FA22:諸 FA25:逸都
FA2A:飯飼館鶴郞隷侮僧免勉勤卑喝嘆器塀墨層屮悔慨憎懲敏既暑梅海渚漢煮爫琢碑社祉祈祐祖祝禍禎穀突節練縉繁署者臭艹艹著褐視謁謹賓贈辶逸難響頻恵𤋮舘
FA70:並况全侀充冀勇勺喝啕喙嗢塚墳奄奔婢嬨廒廙彩徭惘慎愈憎慠懲戴揄搜摒敖晴朗望杖歹殺流滛滋漢瀞煮瞧爵犯猪瑱甆画瘝瘟益盛直睊着磌窱節类絛練缾者荒華蝹襁覆視調諸請謁諾諭謹變贈輸遲醙鉶陼難靖韛響頋頻鬒龜
FACF:𢡊𢡄𣏕㮝䀘䀹𥉉𥳐𧻓齃龎 FB00::fffifl FB03:::ffiffl FB05::stst FB13::մնմեմիվնմխ FB1D>5D9+5B4 FB1F>5F2+5B7
FB20:עאדהכלםרת FB2A>5E9+5C1,5E9+5C2,5E9+5BC+5C1,5E9+5BC+5C2,5D0+5B7,5D0+5B8,5D0+5BC,5D1+5BC,5D2+5BC
FB33>5D3+5BC,5D4+5BC,5D5+5BC,5D6+5BC FB38>5D8+5BC,5D9+5BC,5DA+5BC,5DB+5BC,5DC+5BC FB3E>5DE+5BC
FB40>5E0+5BC,5E1+5BC FB43>5E3+5BC,5E4+5BC
FB46>5E6+5BC,5E7+5BC,5E8+5BC,5E9+5BC,5EA+5BC,5D5+5B9,5D1+5BF,5DB+5BF,5E4+5BF,5D0+5DC
FB50:ٱٱٻٻٻٻپپپپڀڀڀڀٺٺٺٺٿٿٿٿٹٹٹٹڤڤڤڤڦڦڦڦڄڄڄڄڃڃڃڃچچچچڇڇڇڇڍڍڌڌڎڎڈڈژژڑڑککککگگگگڳڳڳڳڱڱڱڱںںڻڻڻڻ
FBA4>6D5+654,6D5+654 FBA6:ہہہہھھھھےے FBB0>6D2+654,6D2+654 FBD3:ڭڭڭڭۇۇۆۆۈۈ FBDD::ۇٴ FBDE:ۋۋۅۅۉۉېېېېىى
FBEA>64A+654+627,64A+654+627,64A+654+6D5,64A+654+6D5,64A+654+648,64A+654+648,64A+654+6C7,64A+654+6C7
FBF2>64A+654+6C6,64A+654+6C6,64A+654+6C8,64A+654+6C8,64A+654+6D0,64A+654+6D0,64A+654+6D0,64A+654+649
FBFA>64A+654+649,64A+654+649,6CC,6CC,6CC,6CC,64A+654+62C,64A+654+62D,64A+654+645,64A+654+649
FC04>64A+654+64A FC05::بجبحبخبمبىبيتجتحتختمتىتيثجثمثىثيجحجمحجحمخجخحخمسجسحسخسمصحصمضجضحضخضمطحطمظمعجعم
FC2B::غجغمفجفحفخفمفىفيقحقمقىقيكاكجكحكخكلكمكىكيلجلحلخلملىليمجمحمخمممىمينجنحنخنمنىنيهجهمهىهييجيحيخيميى
FC5A::يي FC5B>630+670,631+670,649+670
FC64>64A+654+631,64A+654+632,64A+654+645,64A+654+646,64A+654+649,64A+654+64A
FC6A::بربزبمبنبىبيترتزتمتنتىتيثرثزثمثنثىثيفىفيقىقيكاكلكمكىكيلملىليماممنرنزنمنننىني FC90>649+670
FC91::يريزيمينيىيي FC97>64A+654+62C,64A+654+62D,64A+654+62E,64A+654+645,64A+654+647
FC9C::بجبحبخبمبهتجتحتختمتهثمجحجمحجحمخجخمسجسحسخسمصحصخصمضجضحضخضمطحظمعجعمغجغمفجفحفخفمقحقمكجكحكخكلكملجلح
FCCB::لخلملهمجمحمخممنجنحنخنمنههجهم FCD9>647+670 FCDA::يجيحيخيميه FCDF>64A+654+645,64A+654+647
FCE1::بمبهتمتهثمثهسمسهشمشهكلكملمنمنهيميه FCF2>640+64E+651,640+64F+651,640+650+651
FCF5::طىطيعىعيغىغيسىسيشىشيحىحيجىجيخىخيصىصيضىضيشجشحشخشمشرسرصرضرطىطيعىعيغىغيسىسيشىشيحىحيجىجيخىخيصىصيضى
FD24::ضيشجشحشخشمشرسرصرضرشجشحشخشمسهشهطمسجسحسخشجشحشخطمظم FD3C>627+64B,627+64B
FD50:::تجمتحجتحجتحمتخمتمجتمحتمخجمحجمححميحمىسحجسجحسجىسمحسمحسمجسممسممصححصححصممشحمشحمشجيشمخشمخشممشممضحى
FD6F:::ضخمضخمطمحطمحطممطميعجمعممعممعمىغممغميغمىفخمفخمقمحقمملحملحيلحىلججلججلخملخملمحلمحمحجمحممحيمجحمجم
FD8E:::مخجمخم FD92:::مجخهمجهممنحمنحىنجمنجمنجىنمينمىيمميممبخيتجيتجىتخيتخىتميتمىجميجحىجمىسخىصحيشحيضحي
FDAC:::لجيلمييحييجييميمميقمينحيقمحلحمعميكمينجحمخيلجمكمملجمنجحجحيحجيمجيفميبحيكممعجمصممسخينجي
FDF0:::صلےقلے FDF2::::اللهاكبرمحمدصلعمرسولعليهوسلم FDF9:::صلى FE13>3A FE16>3F FE33>5F,5F
FE4D>5F,5F,5F FE55>3A,3F FE5F>23 FE6B>40 FE71>640+64B FE77>640+64E FE79>640+64F FE7B>640+650
FE7D>640+651 FE7F>640+652,621,627+653,627+653,627+654,627+654,648+654,648+654,627+655,627+655
FE89>64A+654,64A+654,64A+654,64A+654 FE8D:ااببببةةتتتتثثثثججججححححخخخخددذذررززسسسسششششصصصصضضضضططططظظ
FEC7:ظظععععغغغغففففققققككككللللممممننننههههووىىيييي
FEF5>644+627+653,644+627+653,644+627+654,644+627+654,644+627+655,644+627+655 FEFB::لالا FF03>23
FF0F>2F-3A FF1F>3F-5A FF3F>5F FF41>61-7A FF66:ヲァィゥェォャュョッーアイウエオカキクケコサシスセソタチツテト
FF85>30CA-30CF,30D2,30D5,30D8,30DB,30DE-30E2,30E4,30E6,30E8-30ED,30EF,30F3,3099-309A,1160,1100-1101
FFA3>11AA,1102,11AC-11AD,1103-1105,11B0-11B5,111A,1106-1108,1121,1109-1112 FFC2>1161-1166
FFCA>1167-116C FFD2>116D-1172 FFDA>1173-1175 10781:ːˑæʙɓ
10787:ʣꭦʥʤɖɗᶑɘɞʩɤɢɠʛħʜɧʄʪʫɬ𝼄ꞎɮ𝼅ʎ𝼆øɶɷqɺ𝼈ɽɾʀʨʦꭧʧʈⱱ 107B2:ʏʡʢʘǀǁǂ𝼊𝼞 1D400>41-5A,61-7A,41-5A,61-67
1D456>69-7A,41-5A,61-7A,41 1D49E:CD 1D4A2:G 1D4A5:JK 1D4A9:NOPQ 1D4AE>53-5A,61-64 1D4BB:f
1D4BD>68-6E 1D4C5>70-7A,41-5A,61-7A,41-42 1D507:DEFG 1D50D>4A-51 1D516>53-59 1D51E>61-7A,41-42
1D53B:DEFG 1D540>49-4D 1D546:O 1D54A>53-59
1D552>61-7A,41-5A,61-7A,41-5A,61-7A,41-5A,61-7A,41-5A,61-7A,41-5A,61-7A,41-5A,61-7A,131,237
1D6A8>391-3A1,398,3A3-3A9 1D6C2>3B1-3C9 1D6DC:εθκφρπ 1D6E2>391-3A1,398,3A3-3A9 1D6FC>3B1-3C9
1D716:εθκφρπ 1D71C>391-3A1,398,3A3-3A9 1D736>3B1-3C9 1D750:εθκφρπ 1D756>391-3A1,398,3A3-3A9
1D770>3B1-3C9 1D78A:εθκφρπ 1D790>391-3A1,398,3A3-3A9 1D7AA>3B1-3C9 1D7C4:εθκφρπϜϝ
1D7CE>30-39,30-39,30-39,30-39,30-39 1EE00:ابجد 1EE05:وزحطيكلمنسعفصقرشتثخذضظغٮںڡٯ 1EE21:بج 1EE24:ه
1EE27:ح 1EE29:يكلمنسعفصق 1EE34:شتثخ 1EE39:ض 1EE3B:غ 1EE42:ج 1EE47:ح 1EE49:ي 1EE4B:ل 1EE4D:نسع
1EE51:صق 1EE54:ش 1EE57:خ 1EE59:ض 1EE5B:غ 1EE5D:ں 1EE5F:ٯ 1EE61:بج 1EE64:ه 1EE67:حطيك 1EE6C:منسعفصق
1EE74:شتثخ 1EE79:ضظغٮ 1EE7E:ڡ 1EE80:ابجدهوزحطي 1EE8B:لمنسعفصقرشتثخذضظغ 1EEA1:بجد 1EEA5:وزحطي
1EEAB:لمنسعفصقرشتثخذضظغ 1FBF0>30-39 2F800:丽丸乁𠄢你侮侻倂偺備僧像㒞𠘺免兔兤具𠔜㒹內再𠕋冗冤仌冬况𩇟凵刃㓟刻剆割剷㔕勇勉勤勺包匆北卉卑博即卽卿卿卿𠨬灰及叟𠭣叫
2F83A:叱吆咞吸呈周咢哶唐啓啣善善喙喫喳嗂圖嘆圗噑噴切壮城埴堍型堲報墬𡓤売壷夆多夢奢𡚨𡛪姬娛娧姘婦㛮㛼嬈嬾嬾𡧈寃寘寧寳𡬘寿将当尢㞁屠屮峀岍𡷤嵃𡷦嵮嵫嵼巡巢㠯巽帨帽幩㡢𢆃㡼庰庳庶廊𪎒廾𢌱𢌱舁弢弢㣇𣊸
2F898:𦇚形彫㣣徚忍志忹悁㤺㤜悔𢛔惇慈慌慎慌慺憎憲憤憯懞懲懶成戛扝抱拔捐𢬌挽拼捨掃揤𢯱搢揅掩㨮摩摾撝摷㩬敏敬𣀊旣書晉㬙暑㬈㫤冒冕最暜肭䏙朗望朡杞杓𣏃㭉柺枅桒梅𣑭梎栟椔㮝楂榣槪檨𣚣櫛㰘次𣢧歔㱎歲殟殺
2F8F6:殻𣪍𡴋𣫺汎𣲼沿泍汧洖派海流浩浸涅𣴞洴港湮㴳滋滇𣻑淹潮𣽞𣾎濆瀹瀞瀛㶖灊災灷炭𠔥煅𤉣熜𤎫爨爵牐𤘈犀犕𤜵𤠔獺王㺬玥㺸㺸瑇瑜瑱璅瓊㼛甤𤰶甾𤲒異𢆟瘐𤾡𤾸𥁄㿼䀈直𥃳𥃲𥄙𥄳眞真真睊䀹瞋䁆䂖𥐝硎碌磌䃣𥘦祖
2F954:𥚚𥛅福秫䄯穀穊穏𥥼𥪧𥪧竮䈂𥮫篆築䈧𥲀糒䊠糨糣紀𥾆絣䌁緇縂繅䌴𦈨𦉇䍙𦋙罺𦌾羕翺者𦓚𦔣聠𦖨聰𣍟䏕育脃䐋脾媵𦞧𦞵𣎓𣎜舁舄辞䑫芑芋芝劳花芳芽苦𦬼若茝荣莭茣莽菧著荓菊菌菜𦰶𦵫𦳕䔫蓱蓳蔖𧏊蕤𦼬䕝䕡𦾱𧃒
2F9B2:䕫虐虜虧虩蚩蚈蜎蛢蝹蜨蝫螆䗗蟡蠁䗹衠衣𧙧裗裞䘵裺㒻𧢮𧥦䚾䛇誠諭變豕𧲨貫賁贛起𧼯𠠄跋趼跰𠣞軔輸𨗒𨗭邔郱鄑𨜮鄛鈸鋗鋘鉼鏹鐕𨯺開䦕閷𨵷䧦雃嶲霣𩅅𩈚䩮䩶韠𩐊䪲𩒖頋頋頩𩖶飢䬳餩馧駂駾䯎𩬰鬒鱀鳽䳎䳭鵧
2FA10:𪃎䳸𪄅𪈎𪊑麻䵖黹黾鼅鼏鼖鼻𪘀"

/-- The combining classes of marks; 230, above the letter, is not written. -/
def combiningClasses : String :=
  "300:*21,232,220*4,232,216,220*5,202*2,220*4,202*2,220*11,1*5,220*4,*8,240,,220*3,*3,220*2
350:*3,220*4,,232,220*2,,233,234*2,233,234*2,233,*13 483:*5
591:220,*4,220,*3,222,220,*6,220*6,*2,220,*2,222,228,,10,11,12,13,14,15,16,17,18,19*2,20,21,22
5BF:23 5C1:24,25 5C4:,220 5C7:18 610:*8,30,31,32 64B:27,28,29,30,31,32,33,34,*2,220*2,*5,220,*2,220
670:35 6D6:*7 6DF:*4,220, 6E7:*2 6EA:220,*2,220 711:36
730:,220,*2,220,*2,220*3,,220*2,,220,*3,220,,220,,220,,220,*2 7EB:*7,220, 7FD:220 816:*4 81B:*9
825:*3 829:*5 859:220*3 898:,220*3,*4 8CA:*5,220*5,*14
8E3:220,*2,220,*2,220,*3,220*3,27,28,29,*3,220,*2,220*2,*5 93C:7 94D:9 951:,220,*2 9BC:7 9CD:9 9FE
A3C:7 A4D:9 ABC:7 ACD:9 B3C:7 B4D:9 BCD:9 C3C:7 C4D:9 C55:84,91 CBC:7 CCD:9 D3B:9*2 D4D:9 DCA:9
E38:103*2,9 E48:107*4 EB8:118*2,9 EC8:122*4 F18:220*2 F35:220 F37:220 F39:216 F71:129,130 F74:132
F7A:130*4 F80:130 F82:*2,9 F86:*2 FC6:220 1037:7 1039:9*2 108D:220 135D:*3 1714:9*2 1734:9 17D2:9
17DD 18A9:228 1939:222,,220 1A17:,220 1A60:9 1A75:*8 1A7F:220 1AB0:*5,220*6,*2,220
1ABF:220*2,*2,220*2,*5,220,*4 1B34:7 1B44:9 1B6B:,220,*7 1BAA:9*2 1BE6:7 1BF2:9*2 1C37:7 1CD0:*3
1CD4:1,220*5,*2,220*4, 1CE2:1*7 1CED:220 1CF4 1CF8:*2
1DC0:*2,220,*7,220,*2,234,214,220,202,*37,232,228*2,220,218,,233,220,,220 20D0:*2,1*2,*4,1*3,*2 20E1
20E5:1*2,,220,,1*2,220*4, 2CEF:*3 2D7F:9 2DE0:*32 302A:218,228,232,222,224*2 3099:8*2 A66F A674:*10
A69E:*2 A6F0:*2 A806:9 A82C:9 A8C4:9 A8E0:*18 A92B:220*3 A953:9 A9B3:7 A9C0:9 AAB0 AAB2:*2,220
AAB7:*2 AABE:*2 AAC1 AAF6:9 ABED:9 FB1E:26 FE20:*7,220*7,*2 101FD:220 102E0:220 10376:*5 10A0D:220
10A0F 10A38:,1,220 10A3F:9 10AE5:,220 10D24:*4 10EAB:*2 10F46:220*2,*3,220,,220*4 10F82:,220,,220
11046:9 11070:9 1107F:9 110B9:9,7 11100:*3 11133:9*2 11173:7 111C0:9 111CA:7 11235:9,7 112E9:7,9
1133B:7*2 1134D:9 11366:*7 11370:*5 11442:9 11446:7 1145E 114C2:9,7 115BF:9,7 1163F:9 116B6:9,7
1172B:9 11839:9,7 1193D:9*2 11943:7 119E0:9 11A34:9 11A47:9 11A99:9 11C3F:9 11D42:7 11D44:9*2
11D97:9 16AF0:1*5 16B30:*7 16FF0:6*2 1BC9E:1 1D165:216*2,1*3 1D16D:226,216*5 1D17B:220*8
1D185:*5,220*2 1D1AA:*4 1D242:*3 1E000:*7 1E008:*17 1E01B:*7 1E023:*2 1E026:*5 1E130:*7 1E2AE
1E2EC:*4 1E8D0:220*7 1E944:*6,7"

end PrivacyScan.Text
